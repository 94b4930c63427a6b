import GpuCore.Number.Decimal

/-!
# Shortest decimals of binary numbers

A binary number of single precision stands for an interval of reals, all those that round to it.
Its shortest decimal is the one in the interval with the fewest digits, and of several the
closest.  All comparisons are made in exact integer arithmetic.

Main definitions:

- `Binary`: a positive number of single precision as a mantissa and a power of two.
- `Binary.Contains`: the decimals that round to a binary number.
- `Binary.shortest`: the shortest of them.
-/

namespace GpuCore.Number

/-! ## Binary numbers -/

/-- The number `mantissa · 2 ^ exponent`. -/
structure Binary where
  mantissa : Nat
  exponent : Int
  /-- The neighbour below is half as far away as the one above. -/
  narrowBelow : Bool
deriving DecidableEq, Repr, Inhabited

namespace Binary

/-- The absolute value of a finite number of single precision. -/
def ofBits (bits : UInt32) : Binary :=
  let exponent := (bits >>> 23 &&& 0xFF).toNat
  let fraction := (bits &&& 0x7FFFFF).toNat
  if exponent = 0 then ⟨fraction, -149, false⟩
  else ⟨Nat.pow 2 23 + fraction, (exponent : Int) - 150, fraction = 0 && 1 < exponent⟩

/-! ## Comparisons -/

/-- Compare `a · 10 ^ i` with `b · 2 ^ j`. -/
def compareScaled (a : Nat) (i : Int) (b : Nat) (j : Int) : Ordering :=
  compare (a * Nat.pow 10 i.toNat * Nat.pow 2 (-j).toNat)
    (b * Nat.pow 2 j.toNat * Nat.pow 10 (-i).toNat)

/-- A decimal rounds to the binary number: it lies no further than halfway to a neighbour, and
on the middle itself when the mantissa is even. -/
def Contains (binary : Binary) (decimal : Decimal) : Bool :=
  let below := if binary.narrowBelow then 4 * binary.mantissa - 1 else 4 * binary.mantissa - 2
  let above := 4 * binary.mantissa + 2
  let closed := binary.mantissa % 2 = 0
  let low := compareScaled decimal.digits decimal.exponent below (binary.exponent - 2)
  let high := compareScaled decimal.digits decimal.exponent above (binary.exponent - 2)
  (low = .gt ∨ closed ∧ low = .eq) ∧ (high = .lt ∨ closed ∧ high = .eq)

/-! ## Search -/

/-- The largest multiple of ten to the power `grid` that does not exceed the number. -/
def floorOn (binary : Binary) (grid : Int) : Decimal where
  digits :=
    binary.mantissa * Nat.pow 2 binary.exponent.toNat * Nat.pow 10 (-grid).toNat /
      (Nat.pow 2 (-binary.exponent).toNat * Nat.pow 10 grid.toNat)
  exponent := grid

/-- The closest multiple of ten to the power `grid` that rounds to the number, if one does.  The
middle between two of them counts as closer to the upper one. -/
def closestOn? (binary : Binary) (grid : Int) : Option Decimal :=
  let lower := binary.floorOn grid
  let upper : Decimal := { lower with digits := lower.digits + 1 }
  match binary.Contains lower, binary.Contains upper with
  | true, true =>
    if compareScaled (2 * lower.digits + 1) grid (2 * binary.mantissa) binary.exponent = .gt then
      some lower
    else
      some upper
  | true, false => some lower
  | false, true => some upper
  | false, false => none

/-- Exponents of the powers of ten that may lie just above a number of single precision. -/
def powers : List Int :=
  (List.range 86).map fun (n : Nat) => (n : Int) - 46

/-- The least power of ten above the number. -/
def magnitude (binary : Binary) : Int :=
  (powers.find? fun power =>
    compareScaled 1 power binary.mantissa binary.exponent = .gt).getD 40

/-- The number itself as a decimal. -/
def exact (binary : Binary) : Decimal :=
  if 0 ≤ binary.exponent then
    ⟨binary.mantissa * Nat.pow 2 binary.exponent.toNat, 0⟩
  else
    ⟨binary.mantissa * Nat.pow 5 (-binary.exponent).toNat, binary.exponent⟩

/-- Digits after which every number of single precision has been told from its neighbours. -/
def mostDigits : Nat := 9

/-- The shortest decimal that rounds to the number: the grids are tried from one digit on. -/
def shortest (binary : Binary) : Decimal :=
  let grids := (List.range mostDigits).map fun (n : Nat) => binary.magnitude - (n + 1)
  (grids.findSome? binary.closestOn?).getD binary.exact

end Binary

/-! ## Text -/

/-- The text of a number of single precision.  Finite numbers are written without an exponent
and with a point, zero and infinity carry their sign, and the sign of what is not a number does
not count. -/
def textOfFloat32 (value : Float32) : List Char :=
  let bits := value.toBits
  if value.isNaN then ['n', 'a', 'n']
  else
    let sign := if bits >>> 31 = 1 then ['-'] else []
    let magnitude :=
      if value.isInf then ['i', 'n', 'f'] else (Binary.ofBits bits).shortest.positional
    sign ++ magnitude

end GpuCore.Number
