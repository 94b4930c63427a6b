import GpuCore.Proofs.Vram.Access

/-!
# Pixels of an area

The pixels of an area are numbered line by line.  Fills and moves fold every line back into the
image by itself, so that an area which runs over the right edge goes on at the left end of the same
lines.

Main definitions:

- `Area.Fits`: the area is not empty and not larger than the image.
- `Memory.gridPosition`: the position of a pixel of an area by its number.

Main results:

- `Memory.SameShape.pixels_eq_iff`: images are the same if they show the same pixels.
- `Memory.wrap_gridPosition_inj`: an area that fits has as many positions as pixels.
- `Memory.stored_writeArea` and `Memory.stored_moveArea`: what these leave in video memory.
-/

namespace GpuCore.Vram

/-! ## Areas that fit -/

/-- The area is not empty, not larger than the image, and begins on a line of it. -/
structure Area.Fits (area : Area) (memory : Memory) : Prop where
  x_lt : area.x < Vram.width
  width_pos : 0 < area.width
  width_le : area.width ≤ Vram.width
  height_pos : 0 < area.height
  height_le : area.height ≤ memory.lines

/-- Every area of a move or of a transfer fits. -/
theorem Area.fits_ofTransferWords (memory : Memory) (position size : UInt32) :
    (Area.ofTransferWords memory position size).Fits memory where
  x_lt := Word.field_lt position 0 10
  width_pos := extent_pos _ _
  width_le := extent_le _ (by decide)
  height_pos := extent_pos _ _
  height_le := extent_le _ memory.height.lines_pos

theorem Area.Fits.pixelCount_pos {area : Area} {memory : Memory} (hfits : area.Fits memory) :
    0 < area.pixelCount :=
  Nat.mul_pos hfits.width_pos hfits.height_pos

namespace Memory

variable {memory : Memory} {area : Area}

theorem SameShape.fits {before after : Memory} (h : SameShape before after)
    (hfits : area.Fits before) : area.Fits after :=
  { hfits with height_le := h.lines_eq ▸ hfits.height_le }

/-- Areas are decoded alike for memories of one shape. -/
theorem SameShape.ofTransferWords_eq {before after : Memory} (h : SameShape before after)
    (position size : UInt32) :
    Area.ofTransferWords after position size = Area.ofTransferWords before position size := by
  simp only [Area.ofTransferWords, corner, h.lines_eq]

/-! ## Positions -/

/-- Steps below a modulus are told apart from any point on. -/
theorem eq_of_add_mod_eq {base i j modulus : Nat} (hi : i < modulus) (hj : j < modulus)
    (h : (base + i) % modulus = (base + j) % modulus) : i = j := by
  have hbase : base % modulus < modulus := Nat.mod_lt _ (Nat.lt_of_le_of_lt (Nat.zero_le i) hi)
  rw [← Nat.mod_add_mod, ← Nat.mod_add_mod base modulus j] at h
  generalize base % modulus = base at h hbase
  rcases Nat.lt_or_ge (base + i) modulus with hlow | hhigh <;>
    rcases Nat.lt_or_ge (base + j) modulus with hlow' | hhigh'
  · rw [Nat.mod_eq_of_lt hlow, Nat.mod_eq_of_lt hlow'] at h
    omega
  · rw [Nat.mod_eq_of_lt hlow, Nat.mod_eq_sub_mod hhigh', Nat.mod_eq_of_lt (by omega)] at h
    omega
  · rw [Nat.mod_eq_sub_mod hhigh, Nat.mod_eq_of_lt (by omega), Nat.mod_eq_of_lt hlow'] at h
    omega
  · rw [Nat.mod_eq_sub_mod hhigh, Nat.mod_eq_of_lt (by omega), Nat.mod_eq_sub_mod hhigh',
      Nat.mod_eq_of_lt (by omega)] at h
    omega

/-- Position and coordinates, each folded back into the image, determine each other. -/
theorem position_eq_iff (memory : Memory) (x y x' y' : Nat) :
    memory.position x y = memory.position x' y' ↔
      x % width = x' % width ∧ y % memory.lines = y' % memory.lines := by
  have hx : x % width < width := Nat.mod_lt _ (by decide)
  have hx' : x' % width < width := Nat.mod_lt _ (by decide)
  simp only [position]
  generalize y % memory.lines = line, y' % memory.lines = line'
  simp only [width] at *
  omega

/-- Positions lie in the image. -/
theorem position_lt_stop (memory : Memory) (x y : Nat) : memory.position x y < memory.stop := by
  have hx : x % width < width := Nat.mod_lt _ (by decide)
  have hy : y % memory.lines < memory.lines := Nat.mod_lt _ memory.height.lines_pos
  simp only [position, stop, size, Height.pixels, lines, width] at *
  omega

theorem wrap_position (memory : Memory) (x y : Nat) :
    memory.wrap (memory.position x y) = memory.position x y := by
  refine wrap_of_mem ?_ (memory.position_lt_stop x y)
  rw [position, Nat.add_assoc]
  exact Nat.le_add_right _ _

theorem SameShape.position_eq {before after : Memory} (h : SameShape before after) (x y : Nat) :
    after.position x y = before.position x y := by
  rw [position, position, h.lines_eq]

/-- Columns count modulo the width of the image. -/
theorem readPixel_mod_width (memory : Memory) (x y : Nat) :
    memory.readPixel (x % width) y = memory.readPixel x y := by
  rw [readPixel, readPixel, (memory.position_eq_iff _ _ _ _).2 ⟨Nat.mod_mod x width, rfl⟩]

/-- Every position is that of a pixel of the image. -/
theorem exists_position_eq (memory : Memory) (x y : Nat) :
    ∃ index < memory.size, memory.position x y = margin + index := by
  have hstop := memory.position_lt_stop x y
  rw [position, Nat.add_assoc] at hstop ⊢
  exact ⟨_, Nat.lt_of_add_lt_add_left hstop, rfl⟩

/-- Every pixel of the image has a position. -/
theorem position_mod_div (memory : Memory) {index : Nat} (hindex : index < memory.size) :
    memory.position (index % width) (index / width) = margin + index := by
  have hline : index / width < memory.lines := Nat.div_lt_of_lt_mul hindex
  rw [position, Nat.mod_eq_of_lt hline, Nat.mod_mod, Nat.add_assoc, Nat.mul_comm, Nat.div_add_mod]

/-- Images are the same if they show the same pixels. -/
theorem SameShape.pixels_eq_iff {left right : Memory} (h : SameShape left right)
    (hinit : left.isAllocated = true) :
    left.pixels = right.pixels ↔ ∀ x y, left.readPixel x y = right.readPixel x y := by
  have hinit' : right.isAllocated = true := by rw [h.isAllocated_eq, hinit]
  have hsize : right.size = left.size := by rw [size, size, h.1]
  refine ⟨fun hpixels x y => ?_, fun hread => Array.ext_getElem? fun index => ?_⟩
  · obtain ⟨index, hindex, hposition⟩ := left.exists_position_eq x y
    have hread := getElem?_pixels hinit index hindex
    rw [hpixels, getElem?_pixels hinit' index (hsize ▸ hindex), Option.some_inj] at hread
    rw [readPixel, readPixel, h.position_eq, hposition, hread]
  · by_cases hindex : index < left.size
    · have hpixel := hread (index % width) (index / width)
      rw [readPixel, readPixel, h.position_eq, left.position_mod_div hindex] at hpixel
      rw [getElem?_pixels hinit index hindex, getElem?_pixels hinit' index (hsize ▸ hindex), hpixel]
    · rw [Array.getElem?_eq_none, Array.getElem?_eq_none]
      · rw [size_pixels hinit', hsize]
        exact Nat.le_of_not_lt hindex
      · rw [size_pixels hinit]
        exact Nat.le_of_not_lt hindex

/-- The position of pixel number `index` of an area. -/
def gridPosition (memory : Memory) (area : Area) (index : Nat) : Nat :=
  memory.position (area.x + index % area.width) (area.y + index / area.width)

/-- A pixel is determined by its column and its line. -/
theorem index_eq {width i j : Nat} (hcolumn : i % width = j % width)
    (hline : i / width = j / width) : i = j := by
  rw [← Nat.div_add_mod i width, ← Nat.div_add_mod j width, hcolumn, hline]

/-- The lines of an area are those of its pixels. -/
theorem line_lt {index : Nat} (hindex : index < area.pixelCount) :
    index / area.width < area.height :=
  Nat.div_lt_of_lt_mul hindex

/-- Different pixels of an area that fits lie at different positions. -/
theorem wrap_gridPosition_inj (hfits : area.Fits memory) {i j : Nat} (hi : i < area.pixelCount)
    (hj : j < area.pixelCount)
    (h : memory.wrap (memory.gridPosition area i) = memory.wrap (memory.gridPosition area j)) :
    i = j := by
  have hcolumn (index : Nat) : index % area.width < width :=
    Nat.lt_of_lt_of_le (Nat.mod_lt _ hfits.width_pos) hfits.width_le
  have hline {index : Nat} (hindex : index < area.pixelCount) :
      index / area.width < memory.lines :=
    Nat.lt_of_lt_of_le (line_lt hindex) hfits.height_le
  simp only [gridPosition, wrap_position] at h
  obtain ⟨hx, hy⟩ := (memory.position_eq_iff _ _ _ _).1 h
  exact index_eq (eq_of_add_mod_eq (hcolumn i) (hcolumn j) hx)
    (eq_of_add_mod_eq (hline hi) (hline hj) hy)

/-! ## Loops over an area -/

/-- Loops with the same rounds are equal. -/
theorem fold_congr {α : Type} {count : Nat} {round round' : (i : Nat) → i < count → α → α}
    (hround : ∀ i hi value, round i hi value = round' i hi value) (initial : α) :
    count.fold round initial = count.fold round' initial := by
  have hrounds : round = round' := by
    funext i hi value
    exact hround i hi value
  rw [hrounds]

/-- A loop over lines and columns is a loop over the numbers of the pixels. -/
theorem fold_lines {α : Type} {columns : Nat} (hcolumns : 0 < columns)
    (round : Nat → Nat → α → α) (lines : Nat) (initial : α) :
    lines.fold
        (fun line _ value => columns.fold (fun column _ value => round line column value) value)
        initial =
      (columns * lines).fold (fun index _ value => round (index / columns) (index % columns) value)
        initial := by
  induction lines with
  | zero => rfl
  | succ lines ih =>
      rw [Nat.fold_succ, ih, Nat.mul_succ, Nat.fold_add]
      refine fold_congr (fun column hcolumn value => ?_) _
      rw [Nat.mul_add_div hcolumns, Nat.mul_add_mod, Nat.div_eq_of_lt hcolumn,
        Nat.mod_eq_of_lt hcolumn, Nat.add_zero]

/-- A loop that pushes entries makes the array of them. -/
theorem fold_push {α : Type} (entry : Nat → α) (count : Nat) :
    count.fold (fun index _ array => array.push (entry index)) #[] =
      Array.ofFn fun index : Fin count => entry index := by
  induction count with
  | zero => rfl
  | succ count ih =>
      rw [Nat.fold_succ, ih, Array.ofFn_succ]
      rfl

/-! ## Reading and writing areas -/

/-- The pixels of an area are read in the order of their numbers. -/
theorem getD_readArea (memory : Memory) (hwidth : 0 < area.width) {index : Nat}
    (hindex : index < area.pixelCount) :
    (memory.readArea area).getD index 0 = memory.read (memory.gridPosition area index) := by
  have hread := fold_lines hwidth
    (fun line column (image : Array UInt16) =>
      image.push (memory.readPixel (area.x + column) (area.y + line))) area.height #[]
  rw [fold_push fun index =>
    memory.readPixel (area.x + index % area.width) (area.y + index / area.width)] at hread
  have hindex' : index < area.width * area.height := hindex
  rw [readArea, hread, Array.getD_eq_getD_getElem?, Array.getElem?_ofFn, dif_pos hindex']
  rfl

/-- An image that is written to an area is stored pixel by pixel. -/
theorem stored_writeArea (hinit : memory.isAllocated = true) (hfits : area.Fits memory)
    (image : Array UInt16) :
    Stored (memory.gridPosition area) (fun index => image.getD index 0) area.pixelCount memory
      (memory.writeArea area image) := by
  have hloop := fold_lines hfits.width_pos
    (fun line column (current : Memory) =>
      current.writePixel (area.x + column) (area.y + line)
        (image.getD (line * area.width + column) 0)) area.height memory
  rw [writeArea, hloop]
  refine Stored.fold hinit (fun index current hshape => ?_) fun i j hij hj hsame => ?_
  · have hnumber : index / area.width * area.width + index % area.width = index := by
      rw [Nat.mul_comm, Nat.div_add_mod]
    have hposition : current.position (area.x + index % area.width) (area.y + index / area.width) =
        memory.gridPosition area index := hshape.position_eq _ _
    rw [hnumber, writePixel, hposition]
  · exact Nat.ne_of_lt hij (wrap_gridPosition_inj hfits (Nat.lt_trans hij hj) hj hsame)

/-- A move stores every pixel of the source at its place in the destination. -/
theorem stored_moveArea (hinit : memory.isAllocated = true) {source : Area}
    (hfits : source.Fits memory) {x y : Nat} (hx : x < width) :
    Stored (memory.gridPosition { source with x := x, y := y })
      (fun index => memory.read (memory.gridPosition source index)) source.pixelCount memory
      (memory.moveArea source x y) := by
  have hdestination : Area.Fits { source with x := x, y := y } memory :=
    ⟨hx, hfits.width_pos, hfits.width_le, hfits.height_pos, hfits.height_le⟩
  have hwritten := stored_writeArea hinit hdestination (memory.readArea source)
  exact hwritten.congr_pixel fun index => getD_readArea memory hfits.width_pos

end Memory

end GpuCore.Vram
