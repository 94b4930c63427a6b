import GpuCore.Vram.Memory
import GpuCore.Word

/-!
# Areas of video memory

An area is a rectangle of pixels that may run over the right or the lower edge of the image and
then continues at the opposite edge.  Fills and moves work on whole areas at once.

Main definitions:

- `Area`: a rectangle with its corner and extents.
- `Area.ofTransferWords` and `Area.ofFillWords`: the two ways of packing an area into words.
- `Memory.readArea`, `Memory.writeArea`, `Memory.fillArea` and `Memory.moveArea`.
-/

namespace GpuCore.Vram

/-! ## Rectangles -/

/-- A rectangle of pixels; its far edges may wrap around the image. -/
structure Area where
  x : Nat := 0
  y : Nat := 0
  width : Nat := 0
  height : Nat := 0
deriving DecidableEq, Repr, Inhabited

/-- Number of pixels. -/
def Area.pixelCount (area : Area) : Nat :=
  area.width * area.height

/-- A raw extent field counts from 1 to `limit`; zero stands for `limit` itself and higher
values wrap. -/
def extent (raw limit : Nat) : Nat :=
  (raw + (limit - 1)) % limit + 1

/-- No extent is empty. -/
theorem extent_pos (raw limit : Nat) : 0 < extent raw limit :=
  Nat.succ_pos _

/-- An extent does not exceed its limit. -/
theorem extent_le (raw : Nat) {limit : Nat} (h : 0 < limit) : extent raw limit ≤ limit :=
  Nat.mod_lt _ h

/-- The corner held by a position word: ten bits across, and a line of the image. -/
def corner (memory : Memory) (position : UInt32) : Nat × Nat :=
  (Word.field position 0 10, Word.field position 16 16 % memory.lines)

/-- The area of a move or an image transfer. -/
def Area.ofTransferWords (memory : Memory) (position size : UInt32) : Area where
  x := (corner memory position).1
  y := (corner memory position).2
  width := extent (Word.field size 0 16) Vram.width
  height := extent (Word.field size 16 16) memory.lines

/-- The area of a fill, whose corner is rounded down and whose width is rounded up to a multiple
of 16 pixels. -/
def Area.ofFillWords (memory : Memory) (position size : UInt32) : Area where
  x := Word.field position 4 6 * 16
  y := (corner memory position).2
  width := (Word.field size 0 10 + 15) / 16 * 16
  height := Word.field size 16 9

/-! ## Whole areas -/

namespace Memory

/-- The pixels of an area, line by line. -/
def readArea (memory : Memory) (area : Area) : Array UInt16 :=
  area.height.fold (fun row _ image =>
    area.width.fold (fun column _ image =>
      image.push (memory.readPixel (area.x + column) (area.y + row))) image) #[]

/-- Replace the pixels of an area by an image given line by line. -/
def writeArea (memory : Memory) (area : Area) (image : Array UInt16) : Memory :=
  area.height.fold (fun row _ memory =>
    area.width.fold (fun column _ memory =>
      memory.writePixel (area.x + column) (area.y + row)
        (image.getD (row * area.width + column) 0)) memory) memory

/-- Give every pixel of an area the same value. -/
def fillArea (memory : Memory) (area : Area) (pixel : UInt16) : Memory :=
  area.height.fold (fun row _ memory =>
    area.width.fold (fun column _ memory =>
      memory.writePixel (area.x + column) (area.y + row) pixel) memory) memory

/-- Copy an area to another corner.  The source is read completely before anything is written,
so the two areas may overlap. -/
def moveArea (memory : Memory) (source : Area) (x y : Nat) : Memory :=
  memory.writeArea { source with x := x, y := y } (memory.readArea source)

end Memory

end GpuCore.Vram
