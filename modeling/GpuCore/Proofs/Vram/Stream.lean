import GpuCore.Proofs.Vram.Grid
import GpuCore.Proofs.Vram.Imprint

/-!
# Pixels of a transfer

A transfer steps through its area with one cursor, which is folded back only at the end of the
image.  An area that runs over the right edge therefore goes on at the left end of the following
lines, one line below where a move would put these pixels.

Main definitions:

- `Memory.streamPosition`: the position of a pixel of a transfer by its number.
- `Area.address`: its address in the image.
- `Area.wordCount`: the data words of an area.
- `Job.at` and `Job.rest`: the job whose next pixel has a given number.

Main results:

- `Memory.streamPosition_eq_position`: where the pixels are.
- `Memory.wrap_streamPosition_inj`: no pixel is visited twice.
- `Memory.streamPosition_eq_address`: positions are addresses behind the margin.
- `Job.advance_at`, `Job.advanceWord_at`, `Job.fetch_at` and `Job.store_at`: the steps of a job.
-/

namespace GpuCore.Vram

/-! ## Positions -/

/-- The address of pixel number `index` in the transfer of an area. -/
def Area.address (area : Area) (memory : Memory) (index : Nat) : Nat :=
  (area.y * Vram.width + area.x + index / area.width * Vram.width + index % area.width) %
    memory.size

namespace Memory

variable {memory : Memory} {area : Area}

/-- The position of pixel number `index` in the transfer of an area: whole lines of the image and
columns behind the position of the first pixel. -/
def streamPosition (memory : Memory) (area : Area) (index : Nat) : Nat :=
  memory.wrap
    (memory.position area.x area.y + (index / area.width * width + index % area.width) : Nat)

theorem wrap_streamPosition (memory : Memory) (area : Area) (index : Nat) :
    memory.wrap (memory.streamPosition area index) = memory.streamPosition area index :=
  wrap_of_mem (memory.wrap_mem _).1 (memory.wrap_mem _).2

/-- What runs over the right edge goes on one line below. -/
theorem streamPosition_eq_position (hfits : area.Fits memory) (index : Nat) :
    memory.streamPosition area index =
      memory.position (area.x + index % area.width)
        (area.y + index / area.width + (area.x + index % area.width) / width) := by
  have hx : area.x % width = area.x := Nat.mod_eq_of_lt hfits.x_lt
  have hpixels : memory.size = width * memory.lines := rfl
  have hoffset : memory.position area.x area.y + (index / area.width * width + index % area.width) =
      margin + (width * (area.y % memory.lines + index / area.width) +
        (area.x + index % area.width)) := by
    rw [position, hx, width]
    omega
  rw [streamPosition, hoffset, wrap_margin_add, hpixels, position]
  generalize area.x + index % area.width = column
  have hline : (area.y % memory.lines + index / area.width + column / width) % memory.lines =
      (area.y + index / area.width + column / width) % memory.lines := by
    rw [Nat.add_assoc, Nat.mod_add_mod, ← Nat.add_assoc]
  rw [Nat.mod_mul, Nat.mul_add_mod, Nat.mul_add_div (by decide), hline, Nat.mul_comm width,
    Nat.add_comm (column % width), ← Nat.add_assoc]

/-- No position is visited twice. -/
theorem wrap_streamPosition_inj (hfits : area.Fits memory) {i j : Nat}
    (hi : i < area.pixelCount) (hj : j < area.pixelCount)
    (h : memory.wrap (memory.streamPosition area i) =
      memory.wrap (memory.streamPosition area j)) :
    i = j := by
  have hoffset {index : Nat} (hindex : index < area.pixelCount) :
      index / area.width * width + index % area.width < memory.size := by
    have hcolumn : index % area.width < area.width := Nat.mod_lt _ hfits.width_pos
    have hline := Nat.lt_of_lt_of_le (line_lt hindex) hfits.height_le
    have hwidth := hfits.width_le
    simp only [size, Height.pixels, width, lines] at *
    omega
  obtain ⟨start, hstart⟩ : ∃ start, memory.position area.x area.y = margin + start :=
    ⟨area.y % memory.lines * width + area.x % width, by rw [position, Nat.add_assoc]⟩
  simp only [wrap_streamPosition] at h
  simp only [streamPosition, hstart, Nat.add_assoc, wrap_margin_add, Nat.add_left_cancel_iff] at h
  have hsame := eq_of_add_mod_eq (hoffset hi) (hoffset hj) h
  have hcolumn (index : Nat) : index % area.width < width :=
    Nat.lt_of_lt_of_le (Nat.mod_lt _ hfits.width_pos) hfits.width_le
  have hi' := hcolumn i
  have hj' := hcolumn j
  rw [width] at hsame hi' hj'
  have hcolumns : i % area.width = j % area.width := by omega
  have hlines : i / area.width = j / area.width := by omega
  exact index_eq hcolumns hlines

/-- Addresses lie in the image. -/
theorem address_lt (memory : Memory) (area : Area) (index : Nat) :
    area.address memory index < memory.size :=
  Nat.mod_lt _ memory.height.pixels_pos

/-- The position of a pixel lies at its address behind the margin. -/
theorem streamPosition_eq_address (hfits : area.Fits memory) (index : Nat) :
    memory.streamPosition area index = margin + area.address memory index := by
  have hx : area.x % width = area.x := Nat.mod_eq_of_lt hfits.x_lt
  have hy : area.y % memory.lines * width = area.y * width % memory.size := by
    rw [← Nat.mul_mod_mul_right, Nat.mul_comm memory.lines]
    rfl
  have hoffset : memory.position area.x area.y + (index / area.width * width + index % area.width) =
      margin + (area.y % memory.lines * width +
        (area.x + index / area.width * width + index % area.width)) := by
    rw [position, hx]
    omega
  rw [streamPosition, hoffset, wrap_margin_add, hy, Nat.mod_add_mod, Area.address, Nat.add_assoc,
    Nat.add_assoc, Nat.add_assoc]

/-- The pixels of an area that fits have addresses of their own. -/
theorem address_inj (hfits : area.Fits memory) {i j : Nat} (hi : i < area.pixelCount)
    (hj : j < area.pixelCount) (h : area.address memory i = area.address memory j) : i = j := by
  refine wrap_streamPosition_inj hfits hi hj ?_
  rw [streamPosition_eq_address hfits, streamPosition_eq_address hfits, h]

/-- The pixels of a transfer are stored at the positions that its cursor visits. -/
theorem stored_stream (pixel : Nat → UInt16) (hinit : memory.isAllocated = true)
    (hfits : area.Fits memory) :
    Stored (memory.streamPosition area) pixel area.pixelCount memory
      (memory.imprint (area.address memory) pixel area.pixelCount) := by
  have hplace : memory.streamPosition area = fun index => margin + area.address memory index :=
    funext fun index => streamPosition_eq_address hfits index
  rw [hplace]
  exact stored_imprint pixel hinit (memory.address_lt area) fun i j hij hj hsame =>
    Nat.ne_of_lt hij (address_inj hfits (Nat.lt_trans hij hj) hj hsame)

theorem SameShape.address_eq {before after : Memory} (h : SameShape before after) (area : Area)
    (index : Nat) : area.address after index = area.address before index := by
  rw [Area.address, Area.address, size, size, h.1]

/-- Writing under the cursor of a pixel sets the pixel at its address. -/
theorem write_streamPosition {current : Memory} (h : SameShape memory current)
    (hfits : area.Fits memory) (index : Nat) (pixel : UInt16) :
    current.write (memory.streamPosition area index) pixel =
      current.setPixel (area.address memory index) pixel := by
  rw [streamPosition_eq_address hfits, ← h.address_eq, write_of_lt (current.address_lt area index)]

theorem SameShape.streamPosition_eq {before after : Memory} (h : SameShape before after)
    (area : Area) (index : Nat) :
    after.streamPosition area index = before.streamPosition area index := by
  rw [streamPosition, h.wrap_eq, streamPosition, h.position_eq]

end Memory

/-- Data words of an area; the last one may hold a single pixel. -/
def Area.wordCount (area : Area) : Nat :=
  (area.pixelCount + 1) / 2

/-! ## Jobs -/

namespace Job

open Memory (SameShape)

variable {memory : Memory} {area : Area} {index : Nat}

/-- The job whose next pixel is number `index`. -/
def «at» (memory : Memory) (area : Area) (index : Nat) : Job where
  area := area
  pixelsLeft := area.width - index % area.width
  linesLeft := area.height - index / area.width
  position := memory.streamPosition area index

@[simp]
theorem pixelsLeft_at (memory : Memory) (area : Area) (index : Nat) :
    (Job.at memory area index).pixelsLeft = area.width - index % area.width :=
  rfl

@[simp]
theorem linesLeft_at (memory : Memory) (area : Area) (index : Nat) :
    (Job.at memory area index).linesLeft = area.height - index / area.width :=
  rfl

/-- What is left of a transfer from pixel number `index` on; `none` behind the last one. -/
def rest (memory : Memory) (area : Area) (index : Nat) : Option Job :=
  if index < area.pixelCount then some (.at memory area index) else none

/-- Jobs depend on the shape of the memory only. -/
theorem at_congr {before after : Memory} (h : SameShape before after) (area : Area)
    (index : Nat) : Job.at after area index = .at before area index := by
  rw [Job.at, Job.at, h.streamPosition_eq]

theorem rest_congr {before after : Memory} (h : SameShape before after) (area : Area)
    (index : Nat) : rest after area index = rest before area index := by
  rw [rest, rest, at_congr h]

/-- A transfer begins with its first pixel. -/
theorem start_eq_at (memory : Memory) (area : Area) : start memory area = .at memory area 0 := by
  have hfirst : memory.streamPosition area 0 = memory.position area.x area.y := by
    rw [Memory.streamPosition, Nat.zero_div, Nat.zero_mod, Nat.zero_mul, Nat.add_zero,
      Memory.wrap_position]
  rw [start, Job.at, hfirst, Nat.zero_div, Nat.zero_mod, Nat.sub_zero, Nat.sub_zero]

/-- Line and column of the pixel behind one that is not the last one of its line. -/
theorem succ_within {columns index : Nat} (hwithin : index % columns + 1 < columns) :
    (index + 1) / columns = index / columns ∧ (index + 1) % columns = index % columns + 1 := by
  have hpos : 0 < columns := Nat.lt_of_le_of_lt (Nat.zero_le _) hwithin
  have hsum := Nat.div_add_mod index columns
  rw [Nat.div_mod_unique hpos]
  exact ⟨by omega, hwithin⟩

/-- The pixel behind the last one of a line is the first one of the next line. -/
theorem succ_at_end {columns index : Nat} (hpos : 0 < columns)
    (hend : index % columns + 1 = columns) :
    (index + 1) / columns = index / columns + 1 ∧ (index + 1) % columns = 0 := by
  have hsum := Nat.div_add_mod index columns
  rw [Nat.div_mod_unique hpos, Nat.mul_add]
  exact ⟨by omega, hpos⟩

/-- The cursor behind a pixel stands on the next one, on the same line or on the next line. -/
theorem nextPosition_at (hfits : area.Fits memory) (index : Nat) :
    (Job.at memory area index).nextPosition memory = memory.streamPosition area (index + 1) := by
  have hcolumn : index % area.width < area.width := Nat.mod_lt _ hfits.width_pos
  have hwidth := hfits.width_le
  rw [nextPosition, Job.at]
  dsimp only [Memory.streamPosition]
  split
  · next hwithin =>
      have hwithin' : index % area.width + 1 < area.width := by omega
      obtain ⟨hline, hnext⟩ := succ_within hwithin'
      rw [Memory.wrap_wrap_add, hline, hnext]
      congr 1
  · next hend =>
      have hend' : index % area.width + 1 = area.width := by omega
      obtain ⟨hline, hnext⟩ := succ_at_end hfits.width_pos hend'
      rw [Memory.wrap_wrap_add, Int.add_assoc, Memory.wrap_wrap_add, hline, hnext]
      congr 1
      rw [width] at *
      omega

theorem advance_at (hfits : area.Fits memory) (hindex : index < area.pixelCount) :
    (Job.at memory area index).advance memory = rest memory area (index + 1) := by
  have hcolumn : index % area.width < area.width := Nat.mod_lt _ hfits.width_pos
  have hline := Memory.line_lt hindex
  have hnext := nextPosition_at hfits index
  have hsum := Nat.div_add_mod index area.width
  have hpixels (lines : Nat) : area.width * (lines + 1) = area.width * lines + area.width :=
    Nat.mul_succ _ _
  rw [advance, hnext, rest]
  split
  · next hwithin =>
      have hwithin' : index % area.width + 1 < area.width := by
        rw [pixelsLeft_at] at hwithin
        omega
      obtain ⟨hsame, hcolumn'⟩ := succ_within hwithin'
      have hlt : index + 1 < area.pixelCount := by
        have hlast := Nat.mul_le_mul_left area.width hline
        rw [hpixels] at hlast
        rw [Area.pixelCount]
        omega
      rw [if_pos hlt, Job.at, Job.at, hsame, hcolumn', Nat.sub_sub]
  · next hend =>
      have hend' : index % area.width + 1 = area.width := by
        rw [pixelsLeft_at] at hend
        omega
      obtain ⟨hbelow, hfirst⟩ := succ_at_end hfits.width_pos hend'
      have hstart : index + 1 = area.width * (index / area.width + 1) := by
        rw [hpixels]
        omega
      have hlines : 1 < (Job.at memory area index).linesLeft ↔ index + 1 < area.pixelCount := by
        rw [hstart, Area.pixelCount, Nat.mul_lt_mul_left hfits.width_pos, linesLeft_at]
        omega
      split
      · next hmore =>
          rw [if_pos (hlines.1 hmore), Job.at, Job.at, hbelow, hfirst, Nat.sub_sub, Nat.sub_zero]
      · next hlast => rw [if_neg fun hmore => hlast (hlines.2 hmore)]

/-- A word takes two pixels. -/
theorem advanceWord_at (hfits : area.Fits memory) (hindex : index < area.pixelCount) :
    (Job.at memory area index).advanceWord memory = rest memory area (index + 2) := by
  rw [advanceWord, advance_at hfits hindex, rest]
  split
  · next hnext => exact advance_at hfits hnext
  · next hlast => rw [rest, if_neg (by omega), Option.bind_none]

/-- The word that holds the pixels number `index` and `index + 1`. -/
theorem fetch_at (hfits : area.Fits memory) (hindex : index < area.pixelCount) :
    (Job.at memory area index).fetch memory =
      (Word.ofHalves (memory.read (memory.streamPosition area index))
        (memory.read (memory.streamPosition area (index + 1))), rest memory area (index + 2)) := by
  rw [fetch, nextPosition_at hfits, advanceWord_at hfits hindex]
  rfl

/-- A data word sets the pixels number `index` and `index + 1` behind those that were set before, or
only the first one of them when the area ends with it. -/
theorem store_at {pixel : Nat → UInt16} {word : UInt32} (hfits : area.Fits memory)
    (hindex : index < area.pixelCount) (hlow : pixel index = Word.low word)
    (hhigh : pixel (index + 1) = Word.high word) :
    (Job.at memory area index).store (memory.imprint (area.address memory) pixel index) word =
      memory.imprint (area.address memory) pixel (min (index + 2) area.pixelCount) := by
  have hshape := Memory.sameShape_imprint memory (area.address memory) pixel index
  have hfirst : (memory.imprint (area.address memory) pixel index).write
      (memory.streamPosition area index) (Word.low word) =
      memory.imprint (area.address memory) pixel (index + 1) := by
    rw [Memory.write_streamPosition hshape hfits, ← hlow, Memory.imprint_succ]
  rw [store, ← at_congr hshape, advance_at (hshape.fits hfits) hindex, rest_congr hshape, rest,
    at_congr hshape]
  by_cases hnext : index + 1 < area.pixelCount
  · rw [if_pos hnext, Nat.min_eq_left hnext]
    dsimp only [Job.at]
    rw [hfirst, Memory.write_streamPosition (Memory.sameShape_imprint _ _ _ _) hfits, ← hhigh,
      ← Memory.imprint_succ]
  · rw [if_neg hnext, Nat.min_eq_right (by omega),
      Nat.le_antisymm (Nat.le_of_not_lt hnext) hindex]
    exact hfirst

end Job

end GpuCore.Vram
