import GpuCore.Proofs.Text.Radix

/-!
# Decimal numbers

A number that is written in decimal, with or without zeros in front, is read back.

Main results:

- `natOfDigits?_decimalPadded`: the digits of a number are read back.
- `length_decimalPadded`: numbers that fit are written in exactly the least width.
-/

namespace GpuCore.Text

/-! ## Reading back -/

theorem digitBelow?_digitChar {value : Nat} (hvalue : value < 10) :
    digitBelow? 10 value.digitChar = some value := by
  revert value
  decide

/-- The digits of a number are read behind those of another one, by induction on the number without
its last digit. -/
theorem natFrom?_toDigits (start value : Nat) :
    natFrom? 10 start (Nat.toDigits 10 value) =
      some (start * Nat.pow 10 (Nat.toDigits 10 value).length + value) := by
  induction value using Nat.strongRecOn with
  | ind value ih =>
      by_cases hsmall : value < 10
      · rw [Nat.toDigits_of_lt_base hsmall, natFrom?, digitBelow?_digitChar hsmall]
        rfl
      · have hfront := ih (value / 10) (by omega)
        have hpow (count : Nat) : Nat.pow 10 (count + 1) = Nat.pow 10 count * 10 := rfl
        rw [Nat.toDigits_of_base_le (by decide) (Nat.le_of_not_lt hsmall), natFrom?_append, hfront,
          Option.bind_some, natFrom?, digitBelow?_digitChar (Nat.mod_lt value (by decide)),
          List.length_append, List.length_singleton, hpow, ← Nat.mul_assoc]
        simp only [Option.bind_eq_bind, Option.bind_some, natFrom?, Option.some.injEq]
        omega

/-- Zeros in front of a number do not count. -/
theorem natFrom?_zeros (count : Nat) (text : List Char) :
    natFrom? 10 0 (List.replicate count '0' ++ text) = natFrom? 10 0 text := by
  induction count with
  | zero => rfl
  | succ count ih =>
      rw [List.replicate_succ, List.cons_append, natFrom?]
      exact ih

/-- The digits of a number are read back. -/
theorem natOfDigits?_decimalPadded (least value : Nat) :
    natOfDigits? 10 (decimalPadded least value) = some value := by
  have hdigits : (decimalPadded least value).isEmpty = false := by
    simp [decimalPadded, Nat.toDigits_ne_nil]
  rw [natOfDigits?, hdigits, decimalPadded]
  rw [natFrom?_zeros, Nat.toList_repr, natFrom?_toDigits, Nat.zero_mul, Nat.zero_add]
  rfl

/-- Digits stand for no more than there are numbers with so many digits. -/
theorem natFrom?_lt {radix value number : Nat} {text : List Char}
    (hnumber : natFrom? radix value text = some number) :
    number < (value + 1) * Nat.pow radix text.length := by
  induction text generalizing value with
  | nil =>
      cases hnumber
      exact Nat.lt_of_lt_of_eq (Nat.lt_succ_self _) (Nat.mul_one _).symm
  | cons c text ih =>
      rw [natFrom?] at hnumber
      obtain ⟨digit, hdigit, hrest⟩ := Option.bind_eq_some_iff.1 hnumber
      have hbelow : digit < radix := of_decide_eq_true (Option.filter_eq_some_iff.1 hdigit).2
      have hvalue : value * radix + digit + 1 ≤ (value + 1) * radix := by
        rw [Nat.add_mul, Nat.one_mul]
        omega
      calc
        number < (value * radix + digit + 1) * Nat.pow radix text.length := ih hrest
        _ ≤ (value + 1) * radix * Nat.pow radix text.length := Nat.mul_le_mul_right _ hvalue
        _ = (value + 1) * Nat.pow radix (text.length + 1) := by
          rw [Nat.mul_assoc, Nat.mul_comm radix]
          rfl

theorem natOfDigits?_lt {radix number : Nat} {text : List Char}
    (hnumber : natOfDigits? radix text = some number) : number < Nat.pow radix text.length := by
  unfold natOfDigits? at hnumber
  split at hnumber
  · cases hnumber
  · have hlt := natFrom?_lt hnumber
    rwa [Nat.zero_add, Nat.one_mul] at hlt

/-! ## The text -/

/-- A number consists of digits. -/
theorem isDigit_of_mem_decimalPadded {least value : Nat} {c : Char}
    (hc : c ∈ decimalPadded least value) : c.isDigit = true := by
  rw [decimalPadded, List.mem_append, Nat.toList_repr] at hc
  obtain hzero | hdigit := hc
  · rw [(List.mem_replicate.1 hzero).2]
    rfl
  · exact Nat.isDigit_of_mem_toDigits (by decide) (by decide) hdigit

/-- Numbers that fit are written in exactly the least width. -/
theorem length_decimalPadded {least value : Nat} (hleast : 0 < least)
    (hvalue : value < Nat.pow 10 least) : (decimalPadded least value).length = least := by
  have hdigits : (Nat.toDigits 10 value).length ≤ least :=
    (Nat.length_toDigits_le_iff (by decide) hleast).2 hvalue
  rw [decimalPadded, List.length_append, List.length_replicate, Nat.toList_repr]
  omega

/-- Numbers that do not fit take the digits that they need. -/
theorem length_decimalPadded_le {least most value : Nat} (hleast : least ≤ most) (hmost : 0 < most)
    (hvalue : value < Nat.pow 10 most) : (decimalPadded least value).length ≤ most := by
  have hdigits : (Nat.toDigits 10 value).length ≤ most :=
    (Nat.length_toDigits_le_iff (by decide) hmost).2 hvalue
  rw [decimalPadded, List.length_append, List.length_replicate, Nat.toList_repr]
  omega

end GpuCore.Text
