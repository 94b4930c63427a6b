import GpuCore.Text.Blank
import GpuCore.Text.Radix

/-!
# Hexadecimal words

A word is read from any digits that stand for it, in either case, and nothing but digits is read as
a number.

Main definitions:

- `SpellsWord`: digits that stand for a word.

Main results:

- `natFrom?_hexPadded`: the digits of a number are read back.
- `digit?_of_mem`: a number consists of digits.
- `SpellsWord.word?_eq`: the word that digits stand for is read.
-/

namespace GpuCore.Text

/-! ## Digits -/

/-- A hexadecimal digit has its value in either case. -/
theorem digit?_hexDigit (upper : Bool) {value : Nat} (hvalue : value < 16) :
    digit? (hexDigit upper value) = some value := by
  revert upper value
  decide

/-- The value of a digit by its code point. -/
theorem digit?_eq (c : Char) :
    digit? c =
      if 48 ≤ c.toNat ∧ c.toNat ≤ 57 then some (c.toNat - 48)
      else if 97 ≤ c.toNat ∧ c.toNat ≤ 102 then some (c.toNat - 97 + 10)
      else if 65 ≤ c.toNat ∧ c.toNat ≤ 70 then some (c.toNat - 65 + 10)
      else none := by
  simp only [digit?, Char.le_def, UInt32.le_iff_toNat_le]
  rfl

/-- Capital letters lie 32 code points before small ones. -/
theorem toNat_toLower (c : Char) :
    c.toLower.toNat = if 65 ≤ c.toNat ∧ c.toNat ≤ 90 then c.toNat + 32 else c.toNat := by
  have hcapital : (c.val ≥ 'A'.val ∧ c.val ≤ 'Z'.val) ↔ 65 ≤ c.toNat ∧ c.toNat ≤ 90 := by
    simp only [ge_iff_le, UInt32.le_iff_toNat_le]
    rfl
  unfold Char.toLower
  simp only [hcapital]
  split
  · next hrange =>
      have hnat : c.val.toNat = c.toNat := rfl
      change (c.val + 32).toNat = c.toNat + 32
      rw [UInt32.toNat_add, hnat]
      change (c.toNat + 32) % 4294967296 = c.toNat + 32
      omega
  · rfl

/-- The case of a digit makes no difference. -/
theorem digit?_toLower (c : Char) : digit? c.toLower = digit? c := by
  rw [digit?_eq, digit?_eq, toNat_toLower]
  split
  · next hrange =>
      -- a capital letter is a digit up to F, and the small one behind it up to f
      rw [if_neg (by omega)]
      by_cases hdigit : c.toNat ≤ 70
      · rw [if_pos (by omega), if_neg (by omega), if_neg (by omega), if_pos (by omega)]
        congr 1
      · rw [if_neg (by omega), if_neg (by omega), if_neg (by omega), if_neg (by omega),
          if_neg (by omega)]
  · rfl

/-- Upper and lower case differ in the letters alone. -/
theorem toLower_hexDigit (upper : Bool) {value : Nat} (hvalue : value < 16) :
    (hexDigit upper value).toLower = hexDigit false value := by
  revert upper value
  decide

/-- Letters in either case are read as the same digits. -/
theorem digitBelow?_toLower (radix : Nat) (c : Char) :
    digitBelow? radix c.toLower = digitBelow? radix c := by
  rw [digitBelow?, digitBelow?, digit?_toLower]

/-- A blank is no digit. -/
theorem digit?_of_isBlank {c : Char} (hblank : isBlank c = true) : digit? c = none := by
  simp only [isBlank, blankRanges, List.any_cons, List.any_nil, Bool.or_false, Bool.or_eq_true,
    Bool.and_eq_true, decide_eq_true_eq] at hblank
  rw [digit?_eq, if_neg (by omega), if_neg (by omega), if_neg (by omega)]

/-! ## Numbers -/

/-- Digits in either case are read as the same number. -/
theorem natFrom?_toLower (radix value : Nat) (text : List Char) :
    natFrom? radix value (text.map Char.toLower) = natFrom? radix value text := by
  induction text generalizing value with
  | nil => rfl
  | cons c text ih =>
      rw [List.map_cons, natFrom?, natFrom?, digitBelow?_toLower]
      simp only [ih]

/-- Digits are read one after the other, with what was read in front as the start. -/
theorem natFrom?_append (radix value : Nat) (text later : List Char) :
    natFrom? radix value (text ++ later) =
      (natFrom? radix value text).bind fun value => natFrom? radix value later := by
  induction text generalizing value with
  | nil => rfl
  | cons c text ih =>
      rw [List.cons_append, natFrom?, natFrom?]
      simp only [ih]
      cases digitBelow? radix c <;> rfl

/-- The lowest digits of a number are read behind those of another one. -/
theorem natFrom?_hexPadded (upper : Bool) (start count value : Nat) :
    natFrom? 16 start (hexPadded upper count value) =
      some (start * Nat.pow 16 count + value % Nat.pow 16 count) := by
  induction count generalizing value with
  | zero => simp [hexPadded, natFrom?, Nat.mod_one]
  | succ count ih =>
      have hlast : value % 16 < 16 := Nat.mod_lt _ (by decide)
      have hdigit : digitBelow? 16 (hexDigit upper (value % 16)) = some (value % 16) := by
        rw [digitBelow?, digit?_hexDigit upper hlast]
        simpa using hlast
      have hpow : Nat.pow 16 (count + 1) = 16 * Nat.pow 16 count := Nat.mul_comm _ 16
      have hstart : start * (16 * Nat.pow 16 count) = start * Nat.pow 16 count * 16 := by
        rw [Nat.mul_comm 16, Nat.mul_assoc]
      rw [hexPadded, natFrom?_append, ih, Option.bind_some, natFrom?, hdigit, hpow, Nat.mod_mul,
        hstart]
      simp only [natFrom?, Option.bind_eq_bind, Option.bind_some, Option.some.injEq]
      omega

/-- A number consists of digits. -/
theorem digit?_of_mem {radix value number : Nat} {text : List Char}
    (hnumber : natFrom? radix value text = some number) : ∀ c ∈ text, digit? c ≠ none := by
  induction text generalizing value with
  | nil => simp
  | cons c text ih =>
      rw [natFrom?] at hnumber
      obtain ⟨digit, hdigit, hrest⟩ := Option.bind_eq_some_iff.1 hnumber
      rw [List.forall_mem_cons]
      refine ⟨fun hnone => ?_, ih hrest⟩
      rw [digitBelow?, hnone] at hdigit
      cases hdigit

/-! ## Words -/

/-- Digits that stand for a word: at least as many as it needs, each in either case. -/
def SpellsWord (word : UInt32) (digits : List Char) : Prop :=
  ∃ count, 0 < count ∧ word.toNat < Nat.pow 16 count ∧
    digits.map Char.toLower = hexPadded false count word.toNat

theorem length_hexPadded (upper : Bool) (count value : Nat) :
    (hexPadded upper count value).length = count := by
  induction count generalizing value with
  | zero => rfl
  | succ count ih => rw [hexPadded, List.length_append, ih, List.length_singleton]

theorem map_toLower_hexPadded (upper : Bool) (count value : Nat) :
    (hexPadded upper count value).map Char.toLower = hexPadded false count value := by
  induction count generalizing value with
  | zero => rfl
  | succ count ih =>
      rw [hexPadded, List.map_append, ih, List.map_singleton,
        toLower_hexDigit upper (Nat.mod_lt _ (by decide)), hexPadded]

/-- Eight digits stand for every word. -/
theorem spellsWord_hexPadded (upper : Bool) (word : UInt32) :
    SpellsWord word (hexPadded upper 8 word.toNat) :=
  ⟨8, by decide, word.toNat_lt, map_toLower_hexPadded upper 8 word.toNat⟩

namespace SpellsWord

variable {word : UInt32} {digits : List Char}

/-- What spells a word is read as that word. -/
theorem natFrom?_eq (h : SpellsWord word digits) : natFrom? 16 0 digits = some word.toNat := by
  obtain ⟨count, -, hword, hdigits⟩ := h
  rw [← natFrom?_toLower, hdigits, natFrom?_hexPadded, Nat.zero_mul, Nat.zero_add,
    Nat.mod_eq_of_lt hword]

/-- A word is spelled with one digit at least. -/
theorem ne_nil (h : SpellsWord word digits) : digits ≠ [] := by
  obtain ⟨count, hcount, -, hdigits⟩ := h
  rintro rfl
  have hlength := congrArg List.length hdigits
  rw [length_hexPadded] at hlength
  exact Nat.ne_of_lt hcount hlength

/-- No other characters belong to a word. -/
theorem not_mem (h : SpellsWord word digits) {c : Char} (hc : digit? c = none) : c ∉ digits :=
  fun hmem => digit?_of_mem h.natFrom?_eq c hmem hc

/-- The word that digits stand for is read. -/
theorem word?_eq (h : SpellsWord word digits) : word? digits = some word := by
  have hplus : dropPlus digits = digits := by
    unfold dropPlus
    split
    · exact absurd List.mem_cons_self (h.not_mem (by decide))
    · rfl
  have hnumber : natOfDigits? 16 digits = some word.toNat := by
    rw [natOfDigits?, List.isEmpty_eq_false_iff.2 h.ne_nil, if_neg Bool.false_ne_true,
      h.natFrom?_eq]
  have hfits : (some word.toNat).filter (· < UInt32.size) = some word.toNat :=
    if_pos (decide_eq_true word.toNat_lt)
  rw [word?, hplus, hnumber, hfits, Option.map_some, Nat.toUInt32, UInt32.ofNat_toNat]

end SpellsWord

end GpuCore.Text
