import GpuCore.Proofs.Vram.Grid

/-!
# Memories that show the same image

The margins around the image and the block addresses of a chain are out of reach of every access
through a cursor.  Two memories that show the same image therefore go on showing the same image,
whatever is written to both.

Main definitions:

- `Memory.SameImage`: two memories of one height that show the same pixels.

Main results:

- `Memory.SameImage.read_eq`: the same pixels are read under every cursor.
- `Memory.SameImage.write`, `store`, `fillArea` and `moveArea`: writing keeps images the same.
- `Memory.sameImage_load`: memories that load one image show the same image.
-/

namespace GpuCore.Vram

namespace Memory

/-- Two memories of one height that show the same pixels. -/
structure SameImage (left right : Memory) : Prop where
  allocated : left.isAllocated = true
  shape : SameShape left right
  pixels : left.pixels = right.pixels

variable {left right : Memory}

namespace SameImage

/-- There is an image in both memories. -/
theorem allocated_right (h : SameImage left right) : right.isAllocated = true := by
  rw [h.shape.isAllocated_eq, h.allocated]

/-! ## Reading -/

/-- The same pixels are read under every cursor. -/
theorem read_eq (h : SameImage left right) (cursor : Int) :
    left.read cursor = right.read cursor := by
  obtain ⟨hstart, hstop⟩ := left.wrap_mem cursor
  obtain ⟨index, hindex⟩ := Nat.exists_eq_add_of_le hstart
  have hlt : index < left.size := by
    rw [hindex, stop, start] at hstop
    omega
  have hread (memory : Memory) (hinit : memory.isAllocated = true)
      (hwrap : memory.wrap cursor = margin + index) (hlt : index < memory.size) :
      memory.pixels[index]? = some (memory.read cursor) := by
    rw [getElem?_pixels hinit index hlt, read, read, wrap_margin_add, Nat.mod_eq_of_lt hlt, hwrap]
  have hsize : right.size = left.size := by rw [size, size, h.shape.1]
  have hleft := hread left h.allocated hindex hlt
  have hright := hread right h.allocated_right (by rw [h.shape.wrap_eq]; exact hindex)
    (by rwa [hsize])
  rw [← h.pixels, hleft] at hright
  exact Option.some_inj.mp hright

/-- The same pixel is read at any coordinates. -/
theorem readPixel_eq (h : SameImage left right) (x y : Nat) :
    left.readPixel x y = right.readPixel x y := by
  rw [readPixel, readPixel, h.shape.position_eq, h.read_eq]

/-- The same pixels are read from any area. -/
theorem readArea_eq (h : SameImage left right) (area : Area) :
    left.readArea area = right.readArea area := by
  simp only [readArea, h.readPixel_eq]

end SameImage

/-- Memories of one shape show the same image when every cursor reads the same pixel. -/
theorem sameImage_of_read (hinit : left.isAllocated = true) (hshape : SameShape left right)
    (hread : ∀ cursor, left.read cursor = right.read cursor) : SameImage left right := by
  refine ⟨hinit, hshape, (hshape.pixels_eq_iff hinit).mpr fun x y => ?_⟩
  rw [readPixel, readPixel, hshape.position_eq, hread]

/-! ## Writing -/

/-- Two loops keep related what each of their rounds keeps related. -/
theorem fold_related {α : Type} {R : α → α → Prop} {count : Nat}
    {round round' : (i : Nat) → i < count → α → α} {initial initial' : α}
    (hinitial : R initial initial')
    (hround : ∀ i hi value value', R value value' → R (round i hi value) (round' i hi value')) :
    R (count.fold round initial) (count.fold round' initial') := by
  induction count with
  | zero => simpa using hinitial
  | succ count ih =>
      rw [Nat.fold_succ, Nat.fold_succ]
      exact hround count _ _ _ (ih fun i hi => hround i (Nat.lt_succ_of_lt hi))

namespace SameImage

/-- Writing the same pixel under the same cursor keeps the images the same. -/
theorem write (h : SameImage left right) (cursor : Int) (pixel : UInt16) :
    SameImage (left.write cursor pixel) (right.write cursor pixel) := by
  have hshape : SameShape (left.write cursor pixel) (right.write cursor pixel) :=
    ((sameShape_write left cursor pixel).symm.trans h.shape).trans
      (sameShape_write right cursor pixel)
  refine sameImage_of_read (by rw [write_isAllocated, h.allocated]) hshape fun place => ?_
  rw [read_write h.allocated, read_write h.allocated_right, h.shape.wrap_eq, h.shape.wrap_eq,
    h.read_eq]

/-- Writing the same pixel at the same coordinates keeps them the same. -/
theorem writePixel (h : SameImage left right) (x y : Nat) (pixel : UInt16) :
    SameImage (left.writePixel x y pixel) (right.writePixel x y pixel) := by
  unfold Memory.writePixel
  rw [h.shape.position_eq]
  exact h.write _ pixel

/-- Filling the same area keeps the images the same. -/
theorem fillArea (h : SameImage left right) (area : Area) (pixel : UInt16) :
    SameImage (left.fillArea area pixel) (right.fillArea area pixel) :=
  fold_related h fun _ _ _ _ h => fold_related h fun _ _ _ _ h => h.writePixel _ _ pixel

/-- Writing the same pixels to the same area keeps the images the same. -/
theorem writeArea (h : SameImage left right) (area : Area) (image : Array UInt16) :
    SameImage (left.writeArea area image) (right.writeArea area image) :=
  fold_related h fun _ _ _ _ h => fold_related h fun _ _ _ _ h => h.writePixel _ _ _

/-- Moving the same area keeps the images the same, since it holds the same pixels in both. -/
theorem moveArea (h : SameImage left right) (source : Area) (x y : Nat) :
    SameImage (left.moveArea source x y) (right.moveArea source x y) := by
  unfold Memory.moveArea
  rw [h.readArea_eq]
  exact h.writeArea _ _

end SameImage

/-- Loading an image keeps the shape. -/
theorem sameShape_load {memory : Memory} (hinit : memory.isAllocated = true) {image : Array UInt16}
    (himage : image.size = memory.size) : SameShape memory (memory.load image) := by
  have hcells := size_cells_of_isAllocated hinit
  rw [load, dif_pos ⟨hcells, himage⟩]
  refine ⟨rfl, ?_⟩
  simp only [Array.size_append, Array.size_extract, himage, hcells, stop]
  omega

/-- An image that is loaded is there, whatever was there before. -/
theorem sameImage_load (hinit : left.isAllocated = true) (hshape : SameShape left right)
    {image : Array UInt16} (himage : image.size = left.size) :
    SameImage (left.load image) (right.load image) := by
  have hinit' : right.isAllocated = true := by rw [hshape.isAllocated_eq, hinit]
  have himage' : image.size = right.size := by rw [himage, size, size, hshape.1]
  have hleft := sameShape_load hinit himage
  refine ⟨hleft.isAllocated_eq.trans hinit,
    (hleft.symm.trans hshape).trans (sameShape_load hinit' himage'), ?_⟩
  rw [pixels_load hinit himage, pixels_load hinit' himage']

end Memory

/-! ## Decoding and streaming -/

variable {left right : Memory}

namespace Memory.SameShape

/-- The corner of an area depends on the size of the image alone. -/
theorem corner_eq (h : SameShape left right) (position : UInt32) :
    corner right position = corner left position := by
  rw [corner, corner, h.lines_eq]

theorem ofFillWords_eq (h : SameShape left right) (position size : UInt32) :
    Area.ofFillWords right position size = Area.ofFillWords left position size := by
  rw [Area.ofFillWords, Area.ofFillWords, h.corner_eq]

/-- The first pixel of a transfer depends on the size of the image alone. -/
theorem start_eq (h : SameShape left right) (position size : UInt32) :
    Transfer.start right (.ofTransferWords right position size) =
      .start left (.ofTransferWords left position size) := by
  rw [h.ofTransferWords_eq, Transfer.start, Transfer.start, Job.start, Job.start, h.position_eq]

theorem advance_eq (h : SameShape left right) (job : Job) :
    job.advance right = job.advance left := by
  simp only [Job.advance, Job.nextPosition, h.wrap_eq]

/-- The pixel that is next behind a word depends on the size of the image alone. -/
theorem advanceWord_eq (h : SameShape left right) (job : Job) :
    job.advanceWord right = job.advanceWord left := by
  simp only [Job.advanceWord, h.advance_eq]

end Memory.SameShape

/-- The pixels of a word are stored alike. -/
theorem Memory.SameImage.store (h : SameImage left right) (job : Job) (word : UInt32) :
    SameImage (job.store left word) (job.store right word) := by
  unfold Job.store
  rw [h.shape.advance_eq]
  split
  · exact h.write _ _
  · exact (h.write _ _).write _ _

end GpuCore.Vram
