import GpuCore.Proofs.Vram.Access

/-!
# Setting pixels by their addresses

The address of a pixel is its number in the whole image, line by line.  Setting a list of pixels at
given addresses changes nothing else in video memory, neither the margins around the image nor the
block addresses.

Main definitions:

- `Memory.setPixel`: replace the pixel at an address.
- `Memory.imprint`: replace a number of pixels.

Main results:

- `Memory.write_of_lt`: writing through a cursor sets the pixel at its address.
- `Memory.getElem?_imprint` and `Memory.getElem?_imprint_of_ne`: the image behind an imprint.
-/

namespace GpuCore.Vram.Memory

/-! ## One pixel -/

/-- Replace the pixel at an address of the image. -/
def setPixel (memory : Memory) (address : Nat) (pixel : UInt16) : Memory :=
  { memory with
    cells := memory.cells.setIfInBounds (margin + address) pixel
    size_cells := by simpa using memory.size_cells }

/-- Writing under the position of an address sets the pixel there. -/
theorem write_of_lt {memory : Memory} {address : Nat} (haddress : address < memory.size)
    (pixel : UInt16) :
    memory.write (margin + address : Nat) pixel = memory.setPixel address pixel := by
  have hstop : margin + address < memory.stop := Nat.add_lt_add_left haddress margin
  simp only [write, setPixel, wrap_of_mem (Nat.le_add_right margin address) hstop]

theorem sameShape_setPixel (memory : Memory) (address : Nat) (pixel : UInt16) :
    SameShape memory (memory.setPixel address pixel) := by
  simp [SameShape, setPixel]

/-! ## Many pixels -/

/-- Replace `count` pixels, of which number `index` has the address `address index`. -/
def imprint (memory : Memory) (address : Nat → Nat) (pixel : Nat → UInt16) (count : Nat) :
    Memory :=
  count.fold (fun index _ memory => memory.setPixel (address index) (pixel index)) memory

variable {memory : Memory} {address : Nat → Nat} {pixel : Nat → UInt16} {count : Nat}

@[simp]
theorem imprint_zero : memory.imprint address pixel 0 = memory :=
  rfl

theorem imprint_succ :
    memory.imprint address pixel (count + 1) =
      (memory.imprint address pixel count).setPixel (address count) (pixel count) :=
  Nat.fold_succ _ _ _

theorem sameShape_imprint (memory : Memory) (address : Nat → Nat) (pixel : Nat → UInt16)
    (count : Nat) : SameShape memory (memory.imprint address pixel count) :=
  fold_preserves (.refl memory) fun _ _ current hcurrent =>
    hcurrent.trans (sameShape_setPixel current _ _)

@[simp]
theorem size_imprint (memory : Memory) (address : Nat → Nat) (pixel : Nat → UInt16)
    (count : Nat) : (memory.imprint address pixel count).size = memory.size := by
  rw [size, size, (sameShape_imprint memory address pixel count).1]

@[simp]
theorem isAllocated_imprint (memory : Memory) (address : Nat → Nat) (pixel : Nat → UInt16)
    (count : Nat) : (memory.imprint address pixel count).isAllocated = memory.isAllocated :=
  (sameShape_imprint memory address pixel count).isAllocated_eq

/-- Pixels that are set at addresses of their own are stored there. -/
theorem stored_imprint (pixel : Nat → UInt16) (hinit : memory.isAllocated = true)
    (haddress : ∀ index, address index < memory.size)
    (hinj : ∀ i j, i < j → j < count → address i ≠ address j) :
    Stored (fun index => margin + address index) pixel count memory
      (memory.imprint address pixel count) := by
  have hwrap (index : Nat) :
      memory.wrap (margin + address index : Nat) = margin + address index := by
    rw [wrap_margin_add, Nat.mod_eq_of_lt (haddress index)]
  refine Stored.fold hinit (fun index current hshape => ?_) fun i j hij hj hsame => ?_
  · have hsize : current.size = memory.size := by rw [size, size, hshape.1]
    rw [write_of_lt (hsize ▸ haddress index)]
  · rw [hwrap, hwrap, Nat.add_left_cancel_iff] at hsame
    exact hinj i j hij hj hsame

/-- An imprint shows its pixels. -/
theorem getElem?_imprint (hinit : memory.isAllocated = true)
    (haddress : ∀ index, address index < memory.size)
    (hinj : ∀ i j, i < j → j < count → address i ≠ address j) {index : Nat}
    (hindex : index < count) :
    (memory.imprint address pixel count).pixels[address index]? = some (pixel index) := by
  have hinit' : (memory.imprint address pixel count).isAllocated = true := by
    rw [isAllocated_imprint, hinit]
  have hinside : address index < (memory.imprint address pixel count).size := by
    rw [size_imprint]
    exact haddress index
  rw [getElem?_pixels hinit' _ hinside, (stored_imprint pixel hinit haddress hinj).inside _ hindex]

/-- It shows the image that there was everywhere else. -/
theorem getElem?_imprint_of_ne (hinit : memory.isAllocated = true)
    (haddress : ∀ index, address index < memory.size)
    (hinj : ∀ i j, i < j → j < count → address i ≠ address j) {other : Nat}
    (hother : ∀ index < count, address index ≠ other) :
    (memory.imprint address pixel count).pixels[other]? = memory.pixels[other]? := by
  have hinit' : (memory.imprint address pixel count).isAllocated = true := by
    rw [isAllocated_imprint, hinit]
  by_cases hinside : other < memory.size
  · have hinside' : other < (memory.imprint address pixel count).size := by
      rw [size_imprint]
      exact hinside
    rw [getElem?_pixels hinit' _ hinside', getElem?_pixels hinit _ hinside,
      (stored_imprint pixel hinit haddress hinj).outside _ fun index hindex hsame => ?_]
    rw [wrap_margin_add, wrap_margin_add, Nat.mod_eq_of_lt (haddress index),
      Nat.mod_eq_of_lt hinside, Nat.add_left_cancel_iff] at hsame
    exact hother index hindex hsame
  · rw [Array.getElem?_eq_none, Array.getElem?_eq_none]
    · rw [size_pixels hinit]
      exact Nat.le_of_not_lt hinside
    · rw [size_pixels hinit', size_imprint]
      exact Nat.le_of_not_lt hinside

end GpuCore.Vram.Memory
