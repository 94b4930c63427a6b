import GpuCore.Vram.Memory

/-!
# Cursors in machine words

A cursor is kept in a signed word of 64 bits.  To fold it back into the image, whole images are
taken off as long as it lies behind the image, and whole images are put on as long as it lies before
it.  A sum or a difference that no word can hold has no result, and neither has a fold that comes
across one.

Main definitions:

- `addWord?` and `subWord?`: arithmetic of words.
- `Memory.lower?` and `Memory.raise?`: the two loops.
- `Memory.foldWord?`: a cursor that is folded back by both of them.

Main results:

- `toInt_addWord?` and `toInt_subWord?`: a result is the one of integers.
-/

namespace GpuCore.Vram

/-! ## Arithmetic -/

/-- The sum of two words, unless it overflows. -/
def addWord? (first second : Int64) : Option Int64 :=
  if first.toBitVec.saddOverflow second.toBitVec then none else some (first + second)

/-- The difference of two words, unless it overflows. -/
def subWord? (first second : Int64) : Option Int64 :=
  if first.toBitVec.ssubOverflow second.toBitVec then none else some (first - second)

/-- Words hold the numbers of 64 bits with a sign. -/
theorem toInt_bounds :
    Int64.minValue.toInt = -9223372036854775808 ∧ Int64.maxValue.toInt = 9223372036854775807 := by
  decide

/-- A sum that does not overflow is the sum of the numbers. -/
theorem toInt_addWord? {first second sum : Int64} (h : addWord? first second = some sum) :
    sum.toInt = first.toInt + second.toInt := by
  unfold addWord? at h
  split at h
  · cases h
  · next hfits =>
      cases h
      exact BitVec.toInt_add_of_not_saddOverflow hfits

/-- A difference that does not overflow is the difference of the numbers. -/
theorem toInt_subWord? {first second difference : Int64}
    (h : subWord? first second = some difference) :
    difference.toInt = first.toInt - second.toInt := by
  unfold subWord? at h
  split at h
  · cases h
  · next hfits =>
      cases h
      exact BitVec.toInt_sub_of_not_ssubOverflow hfits

/-- A sum that fits does not overflow. -/
theorem addWord?_ne_none {first second : Int64}
    (hleast : Int64.minValue.toInt ≤ first.toInt + second.toInt)
    (hmost : first.toInt + second.toInt ≤ Int64.maxValue.toInt) : addWord? first second ≠ none := by
  rw [toInt_bounds.1] at hleast
  rw [toInt_bounds.2] at hmost
  have hfits : ¬ first.toBitVec.saddOverflow second.toBitVec = true := by
    simp only [BitVec.saddOverflow, Bool.or_eq_true, decide_eq_true_eq, Int64.toInt_toBitVec]
    omega
  rw [addWord?, if_neg hfits]
  exact Option.some_ne_none _

/-- A difference that fits does not overflow. -/
theorem subWord?_ne_none {first second : Int64}
    (hleast : Int64.minValue.toInt ≤ first.toInt - second.toInt)
    (hmost : first.toInt - second.toInt ≤ Int64.maxValue.toInt) : subWord? first second ≠ none := by
  rw [toInt_bounds.1] at hleast
  rw [toInt_bounds.2] at hmost
  have hfits : ¬ first.toBitVec.ssubOverflow second.toBitVec = true := by
    simp only [BitVec.ssubOverflow, Bool.or_eq_true, decide_eq_true_eq, Int64.toInt_toBitVec]
    omega
  rw [subWord?, if_neg hfits]
  exact Option.some_ne_none _

namespace Memory

/-! ## Folding -/

/-- The end of the image is far from the last word. -/
theorem stop_lt (memory : Memory) : memory.stop < 2097152 := by
  rw [stop, size, margin]
  cases memory.height <;> decide

/-- Positions of the buffer are small enough to be cursors. -/
theorem toInt_ofNat_of_le_stop {memory : Memory} {position : Nat} (h : position ≤ memory.stop) :
    (Int64.ofNat position).toInt = position :=
  Int64.toInt_ofNat_of_lt (Nat.lt_of_le_of_lt h (Nat.lt_trans memory.stop_lt (by decide)))

theorem start_le_stop (memory : Memory) : memory.start ≤ memory.stop :=
  Nat.le_add_right margin memory.size

theorem size_le_stop (memory : Memory) : memory.size ≤ memory.stop :=
  Nat.le_add_left memory.size margin

/-- Taking off an image leads to a cursor that is an image lower, and closer to the image. -/
theorem toInt_lower {memory : Memory} {cursor lower : Int64} (hbehind : .ofNat memory.stop ≤ cursor)
    (hlower : subWord? cursor (.ofNat memory.size) = some lower) :
    lower.toInt = cursor.toInt - memory.size ∧ lower.toInt.toNat < cursor.toInt.toNat := by
  have hsize : 0 < memory.size := memory.height.pixels_pos
  have hstop := memory.size_le_stop
  rw [Int64.le_iff_toInt_le, toInt_ofNat_of_le_stop (Nat.le_refl _)] at hbehind
  rw [toInt_subWord? hlower, toInt_ofNat_of_le_stop hstop]
  omega

/-- Putting on an image leads to a cursor that is an image higher, and closer to the image. -/
theorem toInt_higher {memory : Memory} {cursor higher : Int64}
    (hbefore : cursor < .ofNat memory.start)
    (hhigher : addWord? cursor (.ofNat memory.size) = some higher) :
    higher.toInt = cursor.toInt + memory.size ∧
      (memory.start - higher.toInt).toNat < (memory.start - cursor.toInt).toNat := by
  have hsize : 0 < memory.size := memory.height.pixels_pos
  rw [Int64.lt_iff_toInt_lt, toInt_ofNat_of_le_stop memory.start_le_stop] at hbefore
  rw [toInt_addWord? hhigher, toInt_ofNat_of_le_stop memory.size_le_stop]
  omega

/-- As long as the cursor lies behind the image, take an image off. -/
def lower? (memory : Memory) (cursor : Int64) : Option Int64 :=
  if hbehind : .ofNat memory.stop ≤ cursor then
    match hlower : subWord? cursor (.ofNat memory.size) with
    | none => none
    | some lower =>
      have := (toInt_lower hbehind hlower).2
      memory.lower? lower
  else
    some cursor
termination_by cursor.toInt.toNat

/-- As long as the cursor lies before the image, put an image on. -/
def raise? (memory : Memory) (cursor : Int64) : Option Int64 :=
  if hbefore : cursor < .ofNat memory.start then
    match hhigher : addWord? cursor (.ofNat memory.size) with
    | none => none
    | some higher =>
      have := (toInt_higher hbefore hhigher).2
      memory.raise? higher
  else
    some cursor
termination_by (memory.start - cursor.toInt).toNat

/-- Fold a cursor back into the image, first from behind it and then from before it. -/
def foldWord? (memory : Memory) (cursor : Int64) : Option UInt64 := do
  let cursor ← memory.lower? cursor
  let cursor ← memory.raise? cursor
  return cursor.toUInt64

end Memory

end GpuCore.Vram
