import GpuCore.Vram.Transfer

/-!
# The image and its buffer

Writing to video memory changes pixels, never the height of the image or the size of the buffer
around it.  An image that is loaded as a whole is the image that is read afterwards.

Main definitions:

- `Memory.SameShape`: the same height and the same size of the buffer.

Main results:

- `Memory.sameShape_write`, `sameShape_fillArea`, `sameShape_writeArea` and `sameShape_store`:
  writing keeps the shape.
- `Memory.size_pixels` and `Memory.pixels_load`: the image has the size that it should have, and
  a loaded image is read back.
-/

namespace GpuCore.Vram.Memory

/-! ## Shape -/

/-- A loop keeps what each of its rounds keeps. -/
theorem fold_preserves {α : Type} {P : α → Prop} {count : Nat}
    {round : (i : Nat) → i < count → α → α} {initial : α} (hinitial : P initial)
    (hround : ∀ i hi value, P value → P (round i hi value)) :
    P (count.fold round initial) := by
  induction count with
  | zero => simpa using hinitial
  | succ count ih =>
      rw [Nat.fold_succ]
      exact hround count _ _ (ih fun i hi => hround i (Nat.lt_succ_of_lt hi))

/-- Two memories of the same height and with buffers of the same size. -/
def SameShape (before after : Memory) : Prop :=
  after.height = before.height ∧ after.cells.size = before.cells.size

theorem SameShape.refl (memory : Memory) : SameShape memory memory :=
  ⟨rfl, rfl⟩

theorem SameShape.trans {first second third : Memory} (h : SameShape first second)
    (h' : SameShape second third) : SameShape first third :=
  ⟨h'.1.trans h.1, h'.2.trans h.2⟩

/-- Memories of the same shape are both allocated or both not. -/
theorem SameShape.isAllocated_eq {before after : Memory} (h : SameShape before after) :
    after.isAllocated = before.isAllocated := by
  simp only [isAllocated, Array.isEmpty, h.2]

/-- Writing a pixel keeps the shape. -/
theorem sameShape_write (memory : Memory) (cursor : Int) (pixel : UInt16) :
    SameShape memory (memory.write cursor pixel) := by
  simp [SameShape, write]

/-- Filling an area keeps the shape. -/
theorem sameShape_fillArea (memory : Memory) (area : Area) (pixel : UInt16) :
    SameShape memory (memory.fillArea area pixel) := by
  refine fold_preserves (SameShape.refl memory) fun row _ image himage => ?_
  refine fold_preserves himage fun column _ image himage => ?_
  exact himage.trans (sameShape_write image _ pixel)

/-- Writing an area keeps the shape. -/
theorem sameShape_writeArea (memory : Memory) (area : Area) (image : Array UInt16) :
    SameShape memory (memory.writeArea area image) := by
  refine fold_preserves (SameShape.refl memory) fun row _ current hcurrent => ?_
  refine fold_preserves hcurrent fun column _ current hcurrent => ?_
  exact hcurrent.trans (sameShape_write current _ _)

/-- The pixels of a word keep the shape. -/
theorem sameShape_store (job : Job) (memory : Memory) (word : UInt32) :
    SameShape memory (job.store memory word) := by
  unfold Job.store
  split
  · exact sameShape_write memory _ _
  · exact (sameShape_write memory _ _).trans (sameShape_write _ _ _)

/-- The loop detector keeps no pixels. -/
theorem sameShape_visit (memory : Memory) (address : UInt32) :
    SameShape memory (memory.visit address).2 := by
  unfold visit
  split <;> exact ⟨rfl, rfl⟩

/-! ## The image -/

/-- An allocated buffer holds an image between two margins. -/
theorem size_cells_of_isAllocated {memory : Memory} (hinit : memory.isAllocated = true) :
    memory.cells.size = 2 * margin + memory.size := by
  cases memory.size_cells with
  | inl hempty => simp [isAllocated, Array.isEmpty, hempty] at hinit
  | inr hfull => exact hfull

/-- An image is larger where there are more lines. -/
theorem size_le_iff (first second : Memory) :
    first.size ≤ second.size ↔ first.lines ≤ second.lines :=
  Nat.mul_le_mul_left_iff (by decide)

/-- Images of the same size have the same height. -/
theorem size_eq_iff (first second : Memory) :
    first.size = second.size ↔ first.height = second.height := by
  unfold size
  cases first.height <;> cases second.height <;> decide

/-- Allocated memories of the same height have the same shape. -/
theorem sameShape_of_height {before after : Memory} (hbefore : before.isAllocated = true)
    (hafter : after.isAllocated = true) (hheight : after.height = before.height) :
    SameShape before after := by
  refine ⟨hheight, ?_⟩
  rw [size_cells_of_isAllocated hbefore, size_cells_of_isAllocated hafter, size, size, hheight]

/-- What is allocated shows every pixel of its height. -/
theorem size_pixels {memory : Memory} (hinit : memory.isAllocated = true) :
    memory.pixels.size = memory.size := by
  have hcells := size_cells_of_isAllocated hinit
  rw [pixels, Array.size_extract, start, stop]
  omega

/-- What stands between two parts of an array. -/
theorem extract_between {α : Type} (front image back : Array α) :
    (front ++ image ++ back).extract front.size (front.size + image.size) = image := by
  rw [Array.append_assoc, Array.extract_append_right, Array.extract_append_left,
    Array.extract_eq_self_of_le (Nat.le_refl _)]

/-- A loaded image is read back. -/
theorem pixels_load {memory : Memory} {image : Array UInt16}
    (hinit : memory.isAllocated = true) (himage : image.size = memory.size) :
    (memory.load image).pixels = image := by
  have hcells := size_cells_of_isAllocated hinit
  have hfront : (memory.cells.extract 0 margin).size = margin := by
    rw [Array.size_extract]
    omega
  have hbetween := extract_between (memory.cells.extract 0 margin) image
    (memory.cells.extract memory.stop)
  rw [hfront, himage] at hbetween
  rw [load, dif_pos ⟨hcells, himage⟩]
  exact hbetween

end GpuCore.Vram.Memory
