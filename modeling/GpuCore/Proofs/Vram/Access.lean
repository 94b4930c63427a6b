import GpuCore.Proofs.Vram.Image

/-!
# Reading and writing pixels

A pixel that is written is the one that is read under the same cursor, and under no other one.  From
this follows what a list of writes to distinct places leaves in video memory, in whatever way the
places are enumerated.

Main definitions:

- `Memory.Stored`: a number of pixels was stored at given places, and nothing else changed.

Main results:

- `Memory.read_write`: the law of a single write.
- `Memory.Stored.snoc` and `Memory.Stored.fold`: one more pixel at a place of its own, and a loop
  over such places.
-/

namespace GpuCore.Vram.Memory

variable {memory : Memory}

/-! ## Cursors -/

/-- A cursor behind the first margin counts modulo the size of the image. -/
theorem wrap_margin_add (memory : Memory) (offset : Nat) :
    memory.wrap (margin + offset : Nat) = margin + offset % memory.size := by
  have hoffset : ((margin + offset : Nat) : Int) - margin = (offset : Nat) := by omega
  rw [wrap, hoffset, ← Int.natCast_emod, Int.toNat_natCast]

/-- Positions of the image stand for themselves. -/
theorem wrap_of_mem {position : Nat} (hstart : margin ≤ position)
    (hstop : position < memory.stop) : memory.wrap position = position := by
  obtain ⟨offset, rfl⟩ := Nat.exists_eq_add_of_le hstart
  rw [wrap_margin_add, Nat.mod_eq_of_lt (Nat.lt_of_add_lt_add_left hstop)]

/-- Wrapping on the way makes no difference. -/
theorem wrap_wrap_add (memory : Memory) (cursor step : Int) :
    memory.wrap (memory.wrap cursor + step) = memory.wrap (cursor + step) := by
  have hsize : (0 : Int) < memory.size := by exact_mod_cast memory.height.pixels_pos
  have hnonneg := Int.emod_nonneg (cursor - margin) (Int.ne_of_gt hsize)
  have hoffset : ((margin + ((cursor - margin) % memory.size).toNat : Nat) : Int) + step - margin =
      (cursor - margin) % memory.size + step := by
    omega
  have hsum : cursor + step - margin = cursor - margin + step := by omega
  rw [wrap, wrap, wrap, hoffset, hsum, Int.emod_add_emod]

/-! ## One pixel -/

theorem SameShape.symm {before after : Memory} (h : SameShape before after) :
    SameShape after before :=
  ⟨h.1.symm, h.2.symm⟩

theorem SameShape.lines_eq {before after : Memory} (h : SameShape before after) :
    after.lines = before.lines := by
  rw [lines, lines, h.1]

/-- Cursors fold in the same way in memories of one shape. -/
theorem SameShape.wrap_eq {before after : Memory} (h : SameShape before after) (cursor : Int) :
    after.wrap cursor = before.wrap cursor := by
  rw [wrap, wrap, size, size, h.1]

/-- The pixel that was written last under a cursor is read there. -/
theorem read_write (hinit : memory.isAllocated = true) (written cursor : Int) (pixel : UInt16) :
    (memory.write written pixel).read cursor =
      if memory.wrap written = memory.wrap cursor then pixel else memory.read cursor := by
  have hcells := size_cells_of_isAllocated hinit
  have hinside : memory.wrap written < memory.cells.size := by
    have hstop := (memory.wrap_mem written).2
    rw [stop] at hstop
    omega
  have hwrap : (memory.write written pixel).wrap cursor = memory.wrap cursor :=
    (sameShape_write memory written pixel).wrap_eq cursor
  rw [read, hwrap, write, Array.getD_eq_getD_getElem?, Array.getElem?_setIfInBounds,
    if_pos hinside]
  split
  · rfl
  · rw [read, Array.getD_eq_getD_getElem?]

/-- A new image is black. -/
theorem read_allocate (height : Height) (cursor : Int) : (allocate height).read cursor = 0 := by
  rw [read, allocate, Array.getD_eq_getD_getElem?, Array.getElem?_replicate]
  split <;> rfl

/-! ## The image -/

/-- A pixel of the image is read under its position. -/
theorem getElem?_pixels (hinit : memory.isAllocated = true) (index : Nat)
    (hindex : index < memory.size) :
    memory.pixels[index]? = some (memory.read (margin + index : Nat)) := by
  have hcells := size_cells_of_isAllocated hinit
  have hinside : margin + index < memory.cells.size := by omega
  rw [read, wrap_margin_add, Nat.mod_eq_of_lt hindex, pixels, Array.getElem?_extract, start, stop,
    if_pos (by omega), Array.getD_eq_getD_getElem?, Array.getElem?_eq_getElem hinside]
  rfl

/-! ## Many pixels -/

/-- Between `before` and `after`, the pixels number 0 to `count - 1` were stored at their places,
and no other pixel changed. -/
structure Stored (place : Nat → Nat) (pixel : Nat → UInt16) (count : Nat)
    (before after : Memory) : Prop where
  shape : SameShape before after
  inside : ∀ i < count, after.read (place i) = pixel i
  outside : ∀ cursor, (∀ i < count, before.wrap (place i) ≠ before.wrap cursor) →
    after.read cursor = before.read cursor

namespace Stored

variable {place place' : Nat → Nat} {pixel pixel' : Nat → UInt16} {count : Nat}
  {before after after' : Memory}

/-- In front of the first pixel nothing is stored. -/
theorem zero (place : Nat → Nat) (pixel : Nat → UInt16) (memory : Memory) :
    Stored place pixel 0 memory memory :=
  ⟨.refl memory, fun _ hi => absurd hi (Nat.not_lt_zero _), fun _ _ => rfl⟩

/-- Pixels that are there need not be stored. -/
theorem self (hpixels : ∀ i < count, memory.read (place i) = pixel i) :
    Stored place pixel count memory memory :=
  ⟨.refl memory, hpixels, fun _ _ => rfl⟩

/-- Only the pixels that are stored matter. -/
theorem congr_pixel (h : Stored place pixel count before after)
    (hpixel : ∀ i < count, pixel i = pixel' i) : Stored place pixel' count before after :=
  ⟨h.shape, fun i hi => (h.inside i hi).trans (hpixel i hi), h.outside⟩

/-- Storing pixels neither makes an image nor takes it away. -/
theorem isAllocated_eq (h : Stored place pixel count before after) :
    after.isAllocated = before.isAllocated :=
  h.shape.isAllocated_eq

/-- One more pixel is stored at a place that was not used yet. -/
theorem snoc (h : Stored place pixel count before after) (hinit : before.isAllocated = true)
    (hnew : ∀ i < count, before.wrap (place i) ≠ before.wrap (place count)) :
    Stored place pixel (count + 1) before (after.write (place count) (pixel count)) := by
  have hafter : after.isAllocated = true := by rw [h.isAllocated_eq, hinit]
  refine ⟨h.shape.trans (sameShape_write after _ _), fun i hi => ?inside,
    fun cursor hfree => ?outside⟩
  case inside =>
      rw [read_write hafter, h.shape.wrap_eq, h.shape.wrap_eq]
      split
      · next hsame =>
          by_cases hlast : i = count
          · rw [hlast]
          · exact absurd hsame.symm (hnew i (by omega))
      · next hother =>
          have hlt : i < count := by
            have hne : i ≠ count := fun heq => hother (by rw [heq])
            omega
          exact h.inside i hlt
  case outside =>
      rw [read_write hafter, h.shape.wrap_eq, h.shape.wrap_eq,
        if_neg (hfree count (Nat.lt_succ_self count))]
      exact h.outside cursor fun i hi => hfree i (Nat.lt_succ_of_lt hi)

/-- A loop that writes each pixel to a place of its own stores all of them. -/
theorem fold {round : Nat → Memory → Memory} (hinit : memory.isAllocated = true)
    (hround : ∀ i current, SameShape memory current →
      round i current = current.write (place i) (pixel i))
    (hinj : ∀ i j, i < j → j < count → memory.wrap (place i) ≠ memory.wrap (place j)) :
    Stored place pixel count memory (count.fold (fun i _ current => round i current) memory) := by
  induction count with
  | zero => exact .zero place pixel memory
  | succ count ih =>
      have hstored := ih fun i j hij hj => hinj i j hij (Nat.lt_succ_of_lt hj)
      rw [Nat.fold_succ, hround count _ hstored.shape]
      exact hstored.snoc hinit fun i hi => hinj i count hi (Nat.lt_succ_self count)

end Stored

end GpuCore.Vram.Memory
