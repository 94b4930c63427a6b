import GpuCore.Toml.Value

/-!
# Numerals

Integers are decimal with a sign, or hexadecimal, octal or binary behind a mark and without one.
Floating-point numbers are decimal, with a fraction or an exponent.  Decimal numbers have no
further leading zeros.  An underscore may stand between two digits.

Main definitions:

- `Sign` and `takeSign`: the sign of a numeral.
- `underscoresJoin`: every underscore joins two digits.
- `radixInteger?`, `decimalInteger?` and `decimalFloat?`: numerals without their sign.
-/

namespace GpuCore.Toml

open GpuCore.Number GpuCore.Text

/-! ## Signs -/

/-- The sign of a numeral, which may be missing. -/
inductive Sign where
  | none
  | plus
  | minus
deriving DecidableEq, Repr, Inhabited

/-- The sign at the start of a text, and the text behind it. -/
def takeSign : List Char → Sign × List Char
  | '+' :: text => (.plus, text)
  | '-' :: text => (.minus, text)
  | text => (.none, text)

/-! ## Digits -/

/-- A digit of the given radix. -/
def isDigitOf (radix : Nat) (c : Char) : Bool :=
  (digitBelow? radix c).isSome

/-- Every underscore stands between two digits of the radix, where `afterDigit` says whether the
text follows one. -/
def underscoresJoinFrom (radix : Nat) (afterDigit : Bool) : List Char → Bool
  | [] => true
  | c :: text =>
    if c = '_' then
      afterDigit && text.head?.any (isDigitOf radix) && underscoresJoinFrom radix false text
    else
      underscoresJoinFrom radix (isDigitOf radix c) text

/-- Every underscore in a text stands between two digits of the radix. -/
def underscoresJoin (radix : Nat) (text : List Char) : Bool :=
  underscoresJoinFrom radix false text

/-- The text without underscores. -/
def dropUnderscores (text : List Char) : List Char :=
  text.filter (· ≠ '_')

/-- The digits at the start of a text without the underscores among them, and the text behind
them.  There must be a digit. -/
def takeDigits? (text : List Char) : Option (List Char × List Char) :=
  let isPart := fun c : Char => c.isDigit || c = '_'
  let digits := dropUnderscores (text.takeWhile isPart)
  if digits.isEmpty then none else some (digits, text.dropWhile isPart)

/-! ## Integers -/

/-- An integer behind the mark of its radix.  There may be no digits at all. -/
def radixInteger? (radix : Nat) (text : List Char) : Option IntegerLiteral :=
  let digits := dropUnderscores text
  if underscoresJoin radix text ∧ digits.all (isDigitOf radix) then
    some ⟨false, radix, digits⟩
  else
    none

/-- A decimal integer.  Underscores must join digits, hexadecimal ones included; whether all
that stands between them makes a number is asked only when the value is needed. -/
def decimalInteger? (sign : Sign) (text : List Char) : Option IntegerLiteral :=
  if text ≠ [] ∧ underscoresJoin 16 text ∧ (text.head? = some '0' → text = ['0']) then
    some ⟨sign = .minus, 10, dropUnderscores text⟩
  else
    none

/-! ## Floating-point numbers -/

/-- The digits behind a point, and the text behind them; no digits when there is no point. -/
def takeFraction? : List Char → Option (List Char × List Char)
  | '.' :: text => takeDigits? text
  | text => some ([], text)

/-- The exponent that a whole text is; zero when there is none. -/
def exponent? : List Char → Option Int
  | [] => some 0
  | mark :: text =>
    if mark = 'e' ∨ mark = 'E' then
      let (sign, text) := takeSign text
      match takeDigits? text with
      | some (digits, []) =>
        (natOfDigits? 10 digits).map fun value => if sign = .minus then -(value : Int) else value
      | _ => none
    else
      none

/-- A finite floating-point number. -/
def decimalFloat? (sign : Sign) (text : List Char) : Option FloatLiteral := do
  let (whole, rest) ← takeDigits? text
  let (fraction, rest) ← takeFraction? rest
  let exponent ← exponent? rest
  let digits ← natOfDigits? 10 (whole ++ fraction)
  if underscoresJoin 10 text ∧ (text.head? = some '0' → whole.length = 1) then
    some (.finite (sign = .minus) ⟨digits, exponent - fraction.length⟩)
  else
    none

end GpuCore.Toml
