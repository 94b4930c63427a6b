import GpuCore.Vram.AddressHistory

/-!
# Video memory

The image is 1024 pixels wide and 512 or 1024 lines high.  It lies between two security
margins, and a cursor is a position in the whole buffer.  Any integer may serve as a cursor: it
is folded back into the image, so that no access ever reaches a margin.

Main definitions:

- `Height`: the two sizes of the image.
- `Memory`: the guarded buffer, empty until it is allocated.
- `Memory.wrap`: the position of the image that a cursor stands for.
- `Memory.read` and `Memory.write`: access through cursors.
- `Memory.readPixel` and `Memory.writePixel`: access through coordinates.

Main results:

- `Memory.wrap_mem`: wrapped cursors lie inside the image.
- `Memory.allocate_isAllocated`, `Memory.write_isAllocated`: what is allocated stays so.
- `Memory.allocate_bytes`: the bytes of an allocation.
-/

namespace GpuCore.Vram

/-! ## Dimensions -/

/-- Pixels in a line. -/
def width : Nat := 1024

/-- Pixels reserved before and after the image. -/
def margin : Nat := 262144

/-- The two heights in which video memory is built. -/
inductive Height where
  /-- A console: 512 lines. -/
  | standard
  /-- A board with doubled memory: 1024 lines. -/
  | doubled
deriving DecidableEq, Repr, Inhabited

/-- Number of lines. -/
def Height.lines : Height → Nat
  | standard => 512
  | doubled => 1024

/-- The height selected by the doubled-memory setting. -/
def Height.ofDoubled (isDoubled : Bool) : Height :=
  if isDoubled then doubled else standard

/-- Pixels of the whole image. -/
def Height.pixels (height : Height) : Nat :=
  width * height.lines

/-- An image has a line. -/
theorem Height.lines_pos (height : Height) : 0 < height.lines := by
  cases height <;> decide

/-- An image has a pixel. -/
theorem Height.pixels_pos (height : Height) : 0 < height.pixels := by
  cases height <;> decide

/-! ## The buffer -/

/-- Margin, image and margin in one buffer, which is empty until it is allocated. -/
structure Memory where
  height : Height := .standard
  cells : Array UInt16 := #[]
  /-- Block addresses seen by the loop detector. -/
  history : AddressHistory := {}
  size_cells : cells.size = 0 ∨ cells.size = 2 * margin + height.pixels

/-- Bytes of that buffer for an image of the given height. -/
def Height.bufferBytes (height : Height) : Nat :=
  2 * (2 * margin + height.pixels)

/-- No image. -/
def Memory.unallocated : Memory where
  size_cells := .inl rfl

instance : Inhabited Memory := ⟨.unallocated⟩

namespace Memory

/-- Allocate a black image of the given height and forget the block addresses. -/
def allocate (height : Height) : Memory where
  height := height
  cells := Array.replicate (2 * margin + height.pixels) 0
  size_cells := .inr Array.size_replicate

/-- Give the buffer back; the height is kept. -/
def release (memory : Memory) : Memory :=
  { memory with cells := #[], size_cells := .inl rfl }

/-- Whether there is an image. -/
def isAllocated (memory : Memory) : Bool :=
  !memory.cells.isEmpty

/-- Pixels of the image, allocated or not. -/
def size (memory : Memory) : Nat :=
  memory.height.pixels

/-- Number of lines. -/
def lines (memory : Memory) : Nat :=
  memory.height.lines

/-- First position of the image. -/
def start (_memory : Memory) : Nat :=
  margin

/-- Position behind the last pixel of the image. -/
def stop (memory : Memory) : Nat :=
  margin + memory.size

/-! ## Cursors -/

/-- Fold a cursor back into the image: the only position of the image that differs from it by
a whole number of images. -/
def wrap (memory : Memory) (cursor : Int) : Nat :=
  margin + ((cursor - margin) % memory.size).toNat

/-- The position of pixel (`x`, `y`), whose coordinates count modulo the size of the image. -/
def position (memory : Memory) (x y : Nat) : Nat :=
  margin + y % memory.lines * width + x % width

/-- The pixel under a cursor; zero when nothing is allocated. -/
def read (memory : Memory) (cursor : Int) : UInt16 :=
  memory.cells.getD (memory.wrap cursor) 0

/-- Replace the pixel under a cursor; nothing happens when nothing is allocated. -/
def write (memory : Memory) (cursor : Int) (pixel : UInt16) : Memory :=
  { memory with
    cells := memory.cells.setIfInBounds (memory.wrap cursor) pixel
    size_cells := by simpa using memory.size_cells }

/-- The pixel at (`x`, `y`). -/
def readPixel (memory : Memory) (x y : Nat) : UInt16 :=
  memory.read (memory.position x y)

/-- Replace the pixel at (`x`, `y`). -/
def writePixel (memory : Memory) (x y : Nat) (pixel : UInt16) : Memory :=
  memory.write (memory.position x y) pixel

/-! ## The whole image -/

/-- The image line by line; empty when nothing is allocated. -/
def pixels (memory : Memory) : Array UInt16 :=
  memory.cells.extract memory.start memory.stop

/-- Replace the whole image.  Nothing happens unless there is an image of that size. -/
def load (memory : Memory) (image : Array UInt16) : Memory :=
  if h : memory.cells.size = 2 * margin + memory.size ∧ image.size = memory.size then
    { memory with
      cells := memory.cells.extract 0 margin ++ image ++ memory.cells.extract memory.stop
      size_cells := by
        right
        simp only [Array.size_append, Array.size_extract, h.1, h.2, stop, size]
        omega }
  else
    memory

/-! ## Block addresses -/

/-- Forget the block addresses. -/
def forgetHistory (memory : Memory) : Memory :=
  { memory with history := {}, size_cells := memory.size_cells }

/-- Record a block address; the flag reports a suspected loop, which leaves the history as it
was. -/
def visit (memory : Memory) (address : UInt32) : Bool × Memory :=
  match memory.history.visit address with
  | none => (true, memory)
  | some history => (false, { memory with history := history, size_cells := memory.size_cells })

/-! ## Basic facts -/

/-- Wrapped cursors lie inside the image. -/
theorem wrap_mem (memory : Memory) (cursor : Int) :
    memory.start ≤ memory.wrap cursor ∧ memory.wrap cursor < memory.stop := by
  have hsize : (0 : Int) < memory.size := by
    exact_mod_cast memory.height.pixels_pos
  have hnonneg := Int.emod_nonneg (cursor - margin) (Int.ne_of_gt hsize)
  have hlt := Int.emod_lt_of_pos (cursor - margin) hsize
  simp only [start, stop, wrap]
  omega

/-- There is an image after it was allocated. -/
@[simp]
theorem allocate_isAllocated (height : Height) : (allocate height).isAllocated = true := by
  cases height <;> simp [allocate, isAllocated, margin, Height.pixels, Height.lines, width]

/-- An allocation takes the bytes that its height needs, at two bytes a pixel. -/
theorem allocate_bytes (height : Height) :
    2 * (allocate height).cells.size = height.bufferBytes := by
  simp only [allocate, Array.size_replicate, Height.bufferBytes]

/-- Writing neither makes an image nor takes it away. -/
@[simp]
theorem write_isAllocated (memory : Memory) (cursor : Int) (pixel : UInt16) :
    (memory.write cursor pixel).isAllocated = memory.isAllocated := by
  simp [write, isAllocated, Array.isEmpty]

end Memory

end GpuCore.Vram
