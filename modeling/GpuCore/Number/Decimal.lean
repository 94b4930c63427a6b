/-!
# Decimals

A decimal is a number of digits times a power of ten.

Main definitions:

- `Decimal`: digits and an exponent.
- `Decimal.positional`: the text of a decimal without an exponent.
- `Decimal.toFloat?`: the nearest binary number of double precision.
-/

namespace GpuCore.Number

/-- The number `digits · 10 ^ exponent`. -/
structure Decimal where
  digits : Nat
  exponent : Int
deriving DecidableEq, Repr, Inhabited

namespace Decimal

/-! ## Writing -/

/-- The digits without their trailing zeros, which are counted. -/
def significant (decimal : Decimal) : List Char × Nat :=
  let reversed := (Nat.toDigits 10 decimal.digits).reverse
  ((reversed.dropWhile (· = '0')).reverse, (reversed.takeWhile (· = '0')).length)

/-- Digits with a point before the last `places` of them.  At least one digit stands on either
side of the point. -/
def withPoint (digits : List Char) (places : Nat) : List Char :=
  let digits := List.replicate (places + 1 - digits.length) '0' ++ digits
  let fraction := digits.drop (digits.length - places)
  digits.take (digits.length - places) ++ '.' :: if fraction.isEmpty then ['0'] else fraction

/-- The text of a decimal: all digits in their positions and no exponent, with at least one digit
on either side of the point and no further zeros behind it. -/
def positional (decimal : Decimal) : List Char :=
  if decimal.digits = 0 then
    ['0', '.', '0']
  else
    let (digits, zeros) := decimal.significant
    let exponent := decimal.exponent + zeros
    withPoint (digits ++ List.replicate exponent.toNat '0') (-exponent).toNat

/-! ## Value -/

/-- Position of the first digit: a decimal other than zero is below ten to this power, and not
below a tenth of it. -/
def magnitude (decimal : Decimal) : Int :=
  (Nat.toDigits 10 decimal.digits).length + decimal.exponent

/-- Numbers from ten to this power on exceed double precision. -/
def overflowMagnitude : Int := 310

/-- Numbers below ten to this power round to zero in double precision. -/
def underflowMagnitude : Int := -330

/-- The nearest number of double precision; `none` beyond the largest one. -/
def toFloat? (decimal : Decimal) : Option Float :=
  if decimal.digits = 0 ∨ decimal.magnitude < underflowMagnitude then
    some 0
  else if overflowMagnitude < decimal.magnitude then
    none
  else
    let value := Float.ofScientific decimal.digits (decimal.exponent < 0) decimal.exponent.natAbs
    if value.isInf then none else some value

end Decimal

end GpuCore.Number
