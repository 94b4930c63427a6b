/-!
# Command words

A command word carries its opcode in the top byte and packs small fields into the remaining
bits.  This module names the ways in which the rest of the library takes words apart and puts
them together.

Main definitions:

- `Word.command`: the opcode byte.
- `Word.field` and `Word.flag`: an unsigned bit field and a single bit.
- `Word.low`, `Word.high` and `Word.ofHalves`: the two halves of a word and their inverse.
-/

namespace GpuCore.Word

/-! ## Fields -/

/-- The opcode of a command word, held by bits 24 to 31. -/
def command (word : UInt32) : UInt8 :=
  (word >>> 24).toUInt8

/-- The unsigned field of `width` bits whose lowest bit is bit `start`. -/
def field (word : UInt32) (start width : Nat) : Nat :=
  word.toNat / Nat.pow 2 start % Nat.pow 2 width

/-- The single bit number `index`. -/
def flag (word : UInt32) (index : Nat) : Bool :=
  word.toNat.testBit index

/-- The field of `width` bits at `start`, read as a two's complement number. -/
def signedField (word : UInt32) (start width : Nat) : Int :=
  Int.bmod (field word start width) (Nat.pow 2 width)

/-- A field of `width` bits is below two to that power. -/
theorem field_lt (word : UInt32) (start width : Nat) :
    field word start width < Nat.pow 2 width :=
  Nat.mod_lt _ (Nat.two_pow_pos width)

/-- The bits of a field are bits of the word. -/
theorem testBit_field (word : UInt32) (start width i : Nat) :
    (field word start width).testBit i = (decide (i < width) && flag word (start + i)) := by
  simp only [field, flag, Nat.pow_eq, Nat.testBit_mod_two_pow, Nat.testBit_div_two_pow]
  rw [Nat.add_comm i]

/-- The opcode of a word is its highest field. -/
theorem toNat_command (word : UInt32) : (command word).toNat = field word 24 8 := by
  simp [command, field, Nat.shiftRight_eq_div_pow]

/-- The bits of the opcode are the highest bits of the word. -/
theorem testBit_command (word : UInt32) {i : Nat} (hi : i < 8) :
    (command word).toNat.testBit i = flag word (24 + i) := by
  simp [toNat_command, testBit_field, hi]

/-- A flag is a bit of the word. -/
theorem flag_eq_getLsbD (word : UInt32) (index : Nat) :
    flag word index = word.toBitVec.getLsbD index :=
  rfl

/-! ## Halves -/

/-- The lower half of a word, bits 0 to 15. -/
def low (word : UInt32) : UInt16 :=
  word.toUInt16

/-- The upper half of a word, bits 16 to 31. -/
def high (word : UInt32) : UInt16 :=
  (word >>> 16).toUInt16

/-- The word whose lower and upper halves are given. -/
def ofHalves (lower upper : UInt16) : UInt32 :=
  lower.toUInt32 ||| (upper.toUInt32 <<< 16)

theorem toNat_low (word : UInt32) : (low word).toNat = word.toNat % 65536 := by
  simp [low]

theorem toNat_high (word : UInt32) : (high word).toNat = word.toNat / 65536 := by
  have hword := word.toNat_lt
  simp only [high, UInt32.toNat_toUInt16, UInt32.toNat_shiftRight, Nat.shiftRight_eq_div_pow,
    UInt32.reduceToNat, Nat.reduceMod, Nat.reducePow]
  omega

theorem toNat_ofHalves (lower upper : UInt16) :
    (ofHalves lower upper).toNat = 65536 * upper.toNat + lower.toNat := by
  have hupper := upper.toNat_lt
  have hor := Nat.two_pow_add_eq_or_of_lt lower.toNat_lt upper.toNat
  simp only [ofHalves, UInt32.toNat_or, UInt16.toNat_toUInt32, UInt32.toNat_shiftLeft,
    UInt32.reduceToNat, Nat.reduceMod, Nat.shiftLeft_eq]
  rw [Nat.or_comm, Nat.mod_eq_of_lt (by omega), Nat.mul_comm]
  exact hor.symm

/-- The lower half of a word that is put together. -/
@[simp]
theorem low_ofHalves (lower upper : UInt16) : low (ofHalves lower upper) = lower := by
  have hlower := lower.toNat_lt
  rw [← UInt16.toNat_inj, toNat_low, toNat_ofHalves, Nat.mul_add_mod, Nat.mod_eq_of_lt hlower]

/-- The upper half of a word that is put together. -/
@[simp]
theorem high_ofHalves (lower upper : UInt16) : high (ofHalves lower upper) = upper := by
  have hlower := lower.toNat_lt
  rw [← UInt16.toNat_inj, toNat_high, toNat_ofHalves, Nat.mul_add_div (by decide),
    Nat.div_eq_of_lt hlower, Nat.add_zero]

/-- A word is put together from its halves. -/
@[simp]
theorem ofHalves_low_high (word : UInt32) : ofHalves (low word) (high word) = word := by
  rw [← UInt32.toNat_inj, toNat_ofHalves, toNat_low, toNat_high, Nat.div_add_mod]

end GpuCore.Word
