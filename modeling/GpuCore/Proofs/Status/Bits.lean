import GpuCore.Status

/-!
# Bit groups of the status word

Commands change the status word group by group.  This module states what a change of one group
does to another one: groups without a common bit do not disturb each other.

Main results:

- `Status.bits_set_of_disjoint`, `bits_unset_of_disjoint`, `bits_toggle_of_disjoint`,
  `bits_assign_of_disjoint` and `bits_replace_of_disjoint`: changes elsewhere keep a group.
- `Status.bits_set_self`, `Status.bits_unset_self` and `Status.unset_set_of_bits_eq_zero`: what
  a change does to its own group.
- `Status.set_eq_replace`, `Status.unset_eq_replace` and `Status.assign_eq_replace`: every change is
  the replacement of a group.
-/

namespace GpuCore.Status

/-! ## Words bit by bit -/

/-- Words with the same bits are equal. -/
theorem word_ext {a b : UInt32} (hbits : ∀ i (_ : i < 32), a.toBitVec[i] = b.toBitVec[i]) :
    a = b :=
  UInt32.toBitVec_inj.1 (BitVec.eq_of_getElem_eq hbits)

/-- Groups without a common bit have no bit in common at any place. -/
theorem getElem_of_disjoint {a b : UInt32} (hdisjoint : a &&& b = 0) (i : Nat) (hi : i < 32) :
    (a.toBitVec[i] && b.toBitVec[i]) = false := by
  have hbit := congrArg (fun word : UInt32 => word.toBitVec[i]) hdisjoint
  simpa using hbit

/-- A group avoids the union of two others exactly when it avoids both. -/
theorem and_or_eq_zero_iff {mask a b : UInt32} :
    mask &&& (a ||| b) = 0 ↔ mask &&& a = 0 ∧ mask &&& b = 0 := by
  have hdistrib : mask &&& (a ||| b) = (mask &&& a) ||| (mask &&& b) := by
    refine word_ext fun i hi => ?_
    simp only [UInt32.toBitVec_and, UInt32.toBitVec_or, BitVec.getElem_and, BitVec.getElem_or,
      Bool.and_or_distrib_left]
  rw [hdistrib, UInt32.or_eq_zero_iff]

/-! ## Changes elsewhere -/

variable (status : Status) {mask changed : UInt32}

/-- Setting bits elsewhere keeps a group. -/
theorem bits_set_of_disjoint (hdisjoint : mask &&& changed = 0) :
    (status.set changed).bits mask = status.bits mask := by
  refine word_ext fun i hi => ?_
  have hbit := getElem_of_disjoint hdisjoint i hi
  simp only [set, bits, UInt32.toBitVec_and, UInt32.toBitVec_or, BitVec.getElem_and,
    BitVec.getElem_or]
  grind

/-- Clearing some bits leaves the others. -/
theorem bits_unset_of_disjoint (hdisjoint : mask &&& changed = 0) :
    (status.unset changed).bits mask = status.bits mask := by
  refine word_ext fun i hi => ?_
  have hbit := getElem_of_disjoint hdisjoint i hi
  simp only [unset, bits, UInt32.toBitVec_and, UInt32.toBitVec_not, BitVec.getElem_and,
    BitVec.getElem_not]
  grind

/-- Flipping some bits leaves the others. -/
theorem bits_toggle_of_disjoint (hdisjoint : mask &&& changed = 0) :
    (status.toggle changed).bits mask = status.bits mask := by
  refine word_ext fun i hi => ?_
  have hbit := getElem_of_disjoint hdisjoint i hi
  simp only [toggle, bits, UInt32.toBitVec_and, UInt32.toBitVec_xor, BitVec.getElem_and,
    BitVec.getElem_xor]
  grind

/-- Assigning some bits leaves the others. -/
theorem bits_assign_of_disjoint (enabled : Bool) (hdisjoint : mask &&& changed = 0) :
    (status.assign changed enabled).bits mask = status.bits mask := by
  cases enabled with
  | true => exact bits_set_of_disjoint status hdisjoint
  | false => exact bits_unset_of_disjoint status hdisjoint

/-- Replacing some bits leaves the others. -/
theorem bits_replace_of_disjoint (value : UInt32) (hdisjoint : mask &&& changed = 0) :
    (status.replace changed value).bits mask = status.bits mask := by
  refine word_ext fun i hi => ?_
  have hbit := getElem_of_disjoint hdisjoint i hi
  simp only [replace, bits, UInt32.toBitVec_and, UInt32.toBitVec_or, UInt32.toBitVec_not,
    BitVec.getElem_and, BitVec.getElem_or, BitVec.getElem_not]
  grind

/-- A status read keeps the groups that are not polled. -/
theorem bits_stepBusy_of_disjoint (hdisjoint : mask &&& Mask.available = 0) :
    status.stepBusy.bits mask = status.bits mask := by
  unfold stepBusy
  split
  · rfl
  · dsimp only
    split
    · exact bits_unset_of_disjoint _ hdisjoint
    · exact bits_set_of_disjoint _ hdisjoint

@[simp]
theorem busyReads_assign (enabled : Bool) :
    (status.assign changed enabled).busyReads = status.busyReads := by
  cases enabled <;> rfl

/-! ## Changes of the group itself -/

@[simp]
theorem bits_set_self : (status.set mask).bits mask = mask := by
  refine word_ext fun i hi => ?_
  simp only [set, bits, UInt32.toBitVec_and, UInt32.toBitVec_or, BitVec.getElem_and,
    BitVec.getElem_or]
  grind

@[simp]
theorem bits_unset_self : (status.unset mask).bits mask = 0 := by
  refine word_ext fun i hi => ?_
  simp only [unset, bits, UInt32.toBitVec_and, UInt32.toBitVec_not, BitVec.getElem_and,
    BitVec.getElem_not, UInt32.toBitVec_zero, BitVec.getElem_zero]
  grind

@[simp]
theorem bits_replace_self (value : UInt32) :
    (status.replace mask value).bits mask = value &&& mask := by
  refine word_ext fun i hi => ?_
  simp only [replace, bits, UInt32.toBitVec_and, UInt32.toBitVec_or, UInt32.toBitVec_not,
    BitVec.getElem_and, BitVec.getElem_or, BitVec.getElem_not]
  grind

/-- Setting a clear group and clearing it again leaves no trace. -/
theorem unset_set_of_bits_eq_zero (hclear : status.bits mask = 0) :
    (status.set mask).unset mask = status := by
  have hword : (status.word ||| mask) &&& ~~~mask = status.word := by
    refine word_ext fun i hi => ?_
    have hbit := getElem_of_disjoint hclear i hi
    simp only [UInt32.toBitVec_and, UInt32.toBitVec_or, UInt32.toBitVec_not, BitVec.getElem_and,
      BitVec.getElem_or, BitVec.getElem_not]
    grind
  simp [set, unset, hword]

/-- A group is set exactly when each of its bits is. -/
theorem bits_eq_self_iff :
    status.bits mask = mask ↔
      ∀ i (_ : i < 32), mask.toBitVec[i] = true → status.word.toBitVec[i] = true := by
  constructor
  · intro hset i hi hmask
    have hbit := congrArg (fun word : UInt32 => word.toBitVec[i]) hset
    simp only [bits, UInt32.toBitVec_and, BitVec.getElem_and, hmask, Bool.and_true] at hbit
    exact hbit
  · intro hset
    refine word_ext fun i hi => ?_
    have hbit := hset i hi
    simp only [bits, UInt32.toBitVec_and, BitVec.getElem_and]
    grind

/-- Two groups are set together exactly when each is set. -/
theorem bits_or_eq_iff {a b : UInt32} :
    status.bits (a ||| b) = a ||| b ↔ status.bits a = a ∧ status.bits b = b := by
  simp only [bits_eq_self_iff, UInt32.toBitVec_or, BitVec.getElem_or, Bool.or_eq_true]
  constructor
  · intro hset
    exact ⟨fun i hi ha => hset i hi (.inl ha), fun i hi hb => hset i hi (.inr hb)⟩
  · intro hset i hi hor
    cases hor with
    | inl ha => exact hset.1 i hi ha
    | inr hb => exact hset.2 i hi hb

/-! ## Changes as replacements -/

/-- Registers are equal when they have the same bits and the same busy reads. -/
theorem ext_bits {left right : Status}
    (hbits : ∀ i (_ : i < 32), left.word.toBitVec[i] = right.word.toBitVec[i])
    (hreads : left.busyReads = right.busyReads) : left = right := by
  cases left
  cases right
  rw [mk.injEq]
  exact ⟨word_ext hbits, hreads⟩

/-- Bits of the group come from the new value, all others stay. -/
theorem getElem_replace (mask value : UInt32) (i : Nat) (hi : i < 32) :
    (status.replace mask value).word.toBitVec[i] =
      if mask.toBitVec[i] then value.toBitVec[i] else status.word.toBitVec[i] := by
  cases hmask : mask.toBitVec[i] <;> simp [replace, hmask]

/-- To set bits is to replace them by ones. -/
theorem set_eq_replace (mask : UInt32) : status.set mask = status.replace mask mask := by
  refine ext_bits (fun i hi => ?_) rfl
  rw [getElem_replace]
  cases hmask : mask.toBitVec[i] <;> simp [set, hmask]

/-- To clear bits is to replace them by zeros. -/
theorem unset_eq_replace (mask : UInt32) : status.unset mask = status.replace mask 0 := by
  simp [unset, replace]

/-- To assign bits is to replace them by ones or by zeros. -/
theorem assign_eq_replace (mask : UInt32) (enabled : Bool) :
    status.assign mask enabled = status.replace mask (if enabled then mask else 0) := by
  cases enabled with
  | true => exact set_eq_replace status mask
  | false => exact unset_eq_replace status mask

/-- Of two replacements of a group the later one counts. -/
theorem replace_replace (mask earlier later : UInt32) :
    (status.replace mask earlier).replace mask later = status.replace mask later := by
  refine ext_bits (fun i hi => ?_) rfl
  simp only [getElem_replace]
  split <;> rfl

end GpuCore.Status
