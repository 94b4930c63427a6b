/-!
# Numbers in a radix

Digits of a radix up to sixteen, read and written.

Main definitions:

- `digit?`: the value of a hexadecimal digit.
- `natOfDigits?`: the number that digits of a radix stand for.
- `word?`: a hexadecimal word of 32 bits, with an optional plus sign.
- `hexDigits` and `hexPadded`: hexadecimal digits of a number.
-/

namespace GpuCore.Text

/-! ## Reading -/

/-- The value of a decimal or hexadecimal digit of either case. -/
def digit? (c : Char) : Option Nat :=
  if '0' ≤ c ∧ c ≤ '9' then some (c.toNat - '0'.toNat)
  else if 'a' ≤ c ∧ c ≤ 'f' then some (c.toNat - 'a'.toNat + 10)
  else if 'A' ≤ c ∧ c ≤ 'F' then some (c.toNat - 'A'.toNat + 10)
  else none

/-- The value of a digit of the given radix. -/
def digitBelow? (radix : Nat) (c : Char) : Option Nat :=
  (digit? c).filter (· < radix)

/-- The number of digits that follow a number already read. -/
def natFrom? (radix : Nat) (value : Nat) : List Char → Option Nat
  | [] => some value
  | c :: text => do natFrom? radix (value * radix + (← digitBelow? radix c)) text

/-- The number that digits stand for; at least one digit is needed. -/
def natOfDigits? (radix : Nat) (text : List Char) : Option Nat :=
  if text.isEmpty then none else natFrom? radix 0 text

/-- The text without a leading plus sign. -/
def dropPlus : List Char → List Char
  | '+' :: text => text
  | text => text

/-- The word of 32 bits that hexadecimal digits stand for, perhaps after a plus sign. -/
def word? (text : List Char) : Option UInt32 :=
  ((natOfDigits? 16 (dropPlus text)).filter (· < UInt32.size)).map Nat.toUInt32

/-! ## Writing -/

/-- A hexadecimal digit. -/
def hexDigit (upper : Bool) (value : Nat) : Char :=
  if value < 10 then Char.ofNat ('0'.toNat + value)
  else Char.ofNat ((if upper then 'A'.toNat else 'a'.toNat) + value - 10)

/-- The lowest `count` hexadecimal digits of a number, the highest one first. -/
def hexPadded (upper : Bool) : (count value : Nat) → List Char
  | 0, _ => []
  | count + 1, value => hexPadded upper count (value / 16) ++ [hexDigit upper (value % 16)]

/-- Digits that a number needs in radix 16, at least one and at most `limit`. -/
def hexWidth : (limit value : Nat) → Nat
  | 0, _ => 0
  | limit + 1, value => if value < 16 then 1 else hexWidth limit (value / 16) + 1

/-- The hexadecimal digits of a word without leading zeros. -/
def hexOfWord (word : UInt32) : List Char :=
  hexPadded false (hexWidth 8 word.toNat) word.toNat

/-- The decimal digits of a number, filled up with zeros to a least width. -/
def decimalPadded (least value : Nat) : List Char :=
  let digits := (Nat.repr value).toList
  List.replicate (least - digits.length) '0' ++ digits

end GpuCore.Text
