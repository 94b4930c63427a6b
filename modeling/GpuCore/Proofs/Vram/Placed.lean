import GpuCore.Proofs.Vram.Stream

/-!
# Lines and columns of an area

Loops and transfers count the pixels of an area; programs and the renderer see its lines and
columns.  Moves keep every pixel on its line.  Transfers lower what runs over the right edge.

Main definitions:

- `carry`: the lines by which a transfer lowers a column.
- `Memory.Placed`: the pixels of an area, and no other ones, were replaced.

Main results:

- `Memory.Stored.placed_stream` and `Memory.Stored.placed_copy`: from numbers to lines and columns.
- `Memory.Placed.pixels_eq`: what was placed determines the image.
- `Memory.Placed.below` and `Memory.Placed.kept_below`: the line below an area that runs over the
  right edge.
-/

namespace GpuCore.Vram

/-- The number of lines by which a transfer lowers a column: one behind the right edge, and none up
to it. -/
def carry (x : Nat) : Nat :=
  x / width

namespace Memory

variable {memory before after after' : Memory} {area : Area} {lower lower' : Nat → Nat}
  {pixel pixel' : Nat → Nat → UInt16}

/-! ## Numbers -/

/-- Every line and column of an area has a number. -/
theorem index_lt {row column : Nat} (hrow : row < area.height) (hcolumn : column < area.width) :
    area.width * row + column < area.pixelCount := by
  have hlast := Nat.mul_le_mul_left area.width (Nat.succ_le_of_lt hrow)
  rw [Nat.mul_succ] at hlast
  rw [Area.pixelCount]
  omega

/-- The position of the pixel of a transfer on a line and column. -/
theorem streamPosition_line (hfits : area.Fits memory) (row : Nat) {column : Nat}
    (hcolumn : column < area.width) :
    memory.streamPosition area (area.width * row + column) =
      memory.position (area.x + column) (area.y + row + carry (area.x + column)) := by
  rw [streamPosition_eq_position hfits, Nat.mul_add_mod, Nat.mod_eq_of_lt hcolumn,
    Nat.mul_add_div hfits.width_pos, Nat.div_eq_of_lt hcolumn, Nat.add_zero, carry]

/-- The position of the pixel of a move on a line and column. -/
theorem gridPosition_line (hfits : area.Fits memory) (row : Nat) {column : Nat}
    (hcolumn : column < area.width) :
    memory.gridPosition area (area.width * row + column) =
      memory.position (area.x + column) (area.y + row) := by
  rw [gridPosition, Nat.mul_add_mod, Nat.mod_eq_of_lt hcolumn, Nat.mul_add_div hfits.width_pos,
    Nat.div_eq_of_lt hcolumn, Nat.add_zero]

/-! ## Placed pixels -/

/-- `after` shows `pixel row column` on every line and column of `area`, lowered as `lower` says,
and shows what `before` does everywhere else. -/
structure Placed (lower : Nat → Nat) (area : Area) (pixel : Nat → Nat → UInt16)
    (before after : Memory) : Prop where
  shape : SameShape before after
  inside : ∀ row < area.height, ∀ column < area.width,
    after.readPixel (area.x + column) (area.y + row + lower (area.x + column)) = pixel row column
  outside : ∀ x y,
    (∀ row < area.height, ∀ column < area.width,
      before.position (area.x + column) (area.y + row + lower (area.x + column)) ≠
        before.position x y) →
    after.readPixel x y = before.readPixel x y

/-- Pixels that were stored by their numbers lie on lines and columns. -/
theorem Stored.placed {place : Nat → Nat} {stored : Nat → UInt16}
    (h : Stored place stored area.pixelCount before after) (hwidth : 0 < area.width)
    (hplace : ∀ row, ∀ column < area.width, place (area.width * row + column) =
      before.position (area.x + column) (area.y + row + lower (area.x + column)))
    (hpixel : ∀ row, ∀ column < area.width,
      stored (area.width * row + column) = pixel row column) :
    Placed lower area pixel before after where
  shape := h.shape
  inside row hrow column hcolumn := by
    rw [readPixel, h.shape.position_eq, ← hplace row column hcolumn, ← hpixel row column hcolumn]
    exact h.inside _ (index_lt hrow hcolumn)
  outside x y hfree := by
    rw [readPixel, h.shape.position_eq]
    refine h.outside _ fun index hindex => ?_
    have hcolumn := Nat.mod_lt index hwidth
    rw [← Nat.div_add_mod index area.width, hplace _ _ hcolumn, wrap_position, wrap_position]
    exact hfree _ (line_lt hindex) _ hcolumn

/-- The pixels of a transfer into an area. -/
theorem Stored.placed_stream {stored : Nat → UInt16}
    (h : Stored (before.streamPosition area) stored area.pixelCount before after)
    (hfits : area.Fits before) :
    Placed carry area (fun row column => stored (area.width * row + column)) before after :=
  h.placed hfits.width_pos (fun row _ hcolumn => streamPosition_line hfits row hcolumn)
    fun _ _ _ => rfl

/-- Pixels that were taken from one area to another in the order of their numbers. -/
theorem Stored.placed_copy (lower : Nat → Nat) {place : Area → Nat → Nat} {origin target : Area}
    (h : Stored (place target) (fun index => before.read (place origin index)) target.pixelCount
      before after)
    (hplace : ∀ area, area.Fits before → ∀ row, ∀ column < area.width,
      place area (area.width * row + column) =
        before.position (area.x + column) (area.y + row + lower (area.x + column)))
    (horigin : origin.Fits before) (htarget : target.Fits before)
    (hwidth : origin.width = target.width) :
    Placed lower target
      (fun row column =>
        before.readPixel (origin.x + column) (origin.y + row + lower (origin.x + column)))
      before after := by
  refine h.placed htarget.width_pos (hplace target htarget) fun row column hcolumn => ?_
  rw [← hwidth] at hcolumn ⊢
  rw [hplace origin horigin row column hcolumn]
  rfl

/-! ## The image -/

namespace Placed

/-- The pixels that are there need not be placed. -/
theorem self (lower : Nat → Nat) (hpixel : ∀ row < area.height, ∀ column < area.width,
    memory.readPixel (area.x + column) (area.y + row + lower (area.x + column)) =
      pixel row column) :
    Placed lower area pixel memory memory :=
  ⟨.refl memory, hpixel, fun _ _ _ => rfl⟩

/-- What was placed determines the image. -/
theorem pixels_eq (h : Placed lower area pixel before after)
    (h' : Placed lower' area pixel' before after') (hinit : before.isAllocated = true)
    (hlower : ∀ column < area.width, lower (area.x + column) = lower' (area.x + column))
    (hpixel : ∀ row < area.height, ∀ column < area.width, pixel row column = pixel' row column) :
    after.pixels = after'.pixels := by
  have hshape : SameShape after after' := h.shape.symm.trans h'.shape
  have hinit' : after.isAllocated = true := by rw [h.shape.isAllocated_eq, hinit]
  rw [hshape.pixels_eq_iff hinit']
  intro x y
  by_cases hused : ∃ row < area.height, ∃ column < area.width,
      before.position (area.x + column) (area.y + row + lower (area.x + column)) =
        before.position x y
  · obtain ⟨row, hrow, column, hcolumn, hposition⟩ := hused
    have hread : after.readPixel x y = pixel row column := by
      rw [← h.inside row hrow column hcolumn, readPixel, readPixel, h.shape.position_eq,
        h.shape.position_eq, hposition]
    have hread' : after'.readPixel x y = pixel' row column := by
      rw [← h'.inside row hrow column hcolumn, readPixel, readPixel, h'.shape.position_eq,
        h'.shape.position_eq, ← hlower column hcolumn, hposition]
    rw [hread, hread', hpixel row hrow column hcolumn]
  · have hfree (row : Nat) (hrow : row < area.height) (column : Nat)
        (hcolumn : column < area.width) :
        before.position (area.x + column) (area.y + row + lower (area.x + column)) ≠
          before.position x y :=
      fun hposition => hused ⟨row, hrow, column, hcolumn, hposition⟩
    rw [h.outside x y hfree, h'.outside x y fun row hrow column hcolumn =>
      hlower column hcolumn ▸ hfree row hrow column hcolumn]

/-! ## Below an area -/

/-- Behind the right edge, a transfer places the last line of its area below the area. -/
theorem below (h : Placed carry area pixel before after) (hfits : area.Fits before) (column : Nat)
    (hcolumn : column < area.width) (hedge : width ≤ area.x + column) :
    after.readPixel (area.x + column) (area.y + area.height) = pixel (area.height - 1) column := by
  have hlast : area.height - 1 < area.height := Nat.sub_lt hfits.height_pos Nat.one_pos
  have hcarry : carry (area.x + column) = 1 := by
    have hx := hfits.x_lt
    have hwidth := hfits.width_le
    rw [carry, Nat.div_eq_iff (by decide)]
    omega
  have hline : area.y + (area.height - 1) + 1 = area.y + area.height := by omega
  have hread := h.inside _ hlast column hcolumn
  rw [hcarry, hline] at hread
  exact hread

/-- A move leaves the line below its area alone. -/
theorem kept_below (h : Placed (fun _ => 0) area pixel before after)
    (hheight : area.height < before.lines) (x : Nat) :
    after.readPixel x (area.y + area.height) = before.readPixel x (area.y + area.height) := by
  refine h.outside _ _ fun row hrow column _ hposition => ?_
  have hline := ((before.position_eq_iff _ _ _ _).1 hposition).2
  exact Nat.ne_of_lt hrow (eq_of_add_mod_eq (Nat.lt_trans hrow hheight) hheight hline)

end Placed

end Memory

end GpuCore.Vram
