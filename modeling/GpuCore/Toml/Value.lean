import GpuCore.Number.Decimal
import GpuCore.Text.Radix

/-!
# Values of a document

A TOML document is a table of values.  Every collection remembers how it came to be, because
that decides what later lines of the document may add to it.

Main definitions:

- `IntegerLiteral` and `FloatLiteral`: numbers as they are written.
- `Value` and `Table`.
- `Table.get?` and `Table.put`: access by key.
- `Value.isRepresentable`: every number in a value is one and fits the widest type of its kind.

Main results:

- `Table.get?_put`: what was put under a key is found there, and nothing else changes.
-/

namespace GpuCore.Toml

open GpuCore.Number GpuCore.Text

/-! ## Numbers -/

/-- An integer as it is written.  What stands in the place of its digits need not be digits of
the radix. -/
structure IntegerLiteral where
  negative : Bool
  radix : Nat
  digits : List Char
deriving DecidableEq, Repr, Inhabited

/-- Integers have at most 128 bits, with or without a sign. -/
def fitsInteger (value : Int) : Bool :=
  -(Nat.pow 2 127 : Int) ≤ value && value < (Nat.pow 2 128 : Int)

/-- The number that is written; `none` when it is not a number or does not fit. -/
def IntegerLiteral.toInt? (literal : IntegerLiteral) : Option Int := do
  let magnitude ← natOfDigits? literal.radix literal.digits
  let value : Int := if literal.negative then -magnitude else magnitude
  if fitsInteger value then some value else none

/-- A floating-point number as it is written. -/
inductive FloatLiteral where
  | finite (negative : Bool) (magnitude : Decimal)
  | infinity (negative : Bool)
  | nan
deriving DecidableEq, Repr, Inhabited

/-- The nearest number of double precision; `none` for a finite number beyond the largest one. -/
def FloatLiteral.toFloat? : FloatLiteral → Option Float
  | finite negative magnitude =>
    magnitude.toFloat?.map fun value => if negative then -value else value
  | infinity negative => some (if negative then -(1 / 0) else 1 / 0)
  | nan => some (0 / 0)

/-! ## Values -/

/-- How a table or an array came to be. -/
inductive Origin where
  /-- Written out as a value, and complete. -/
  | inline
  /-- Opened by a header. -/
  | header
  /-- Named on the way by the header of something below it. -/
  | implied
  /-- Named on the way by a dotted key. -/
  | dotted
deriving DecidableEq, Repr, Inhabited

/-- A value.  Tables list their entries in the order in which the keys appeared. -/
inductive Value where
  | string (text : String)
  | integer (literal : IntegerLiteral)
  | float (literal : FloatLiteral)
  | boolean (value : Bool)
  | dateTime (text : String)
  | array (origin : Origin) (elements : List Value)
  | table (origin : Origin) (entries : List (String × Value))
deriving Inhabited

/-- The entries of a table. -/
abbrev Table := List (String × Value)

mutual

/-- Every number in a value is one and fits the widest type of its kind. -/
def Value.isRepresentable : Value → Bool
  | .integer literal => literal.toInt?.isSome
  | .float literal => literal.toFloat?.isSome
  | .array _ elements => elementsRepresentable elements
  | .table _ entries => entriesRepresentable entries
  | .string _ => true
  | .boolean _ => true
  | .dateTime _ => true

/-- Every number in the elements of an array fits. -/
def elementsRepresentable : List Value → Bool
  | [] => true
  | value :: elements => value.isRepresentable && elementsRepresentable elements

/-- Every number in the entries of a table fits. -/
def entriesRepresentable : List (String × Value) → Bool
  | [] => true
  | (_, value) :: entries => value.isRepresentable && entriesRepresentable entries

end

/-! ## Access by key -/

namespace Table

/-- The value of a key. -/
def get? (table : Table) (key : String) : Option Value :=
  List.lookup key table

/-- Give a key a value; a new key goes to the end. -/
def put (table : Table) (key : String) (value : Value) : Table :=
  match table with
  | [] => [(key, value)]
  | (other, old) :: rest =>
    if key = other then (key, value) :: rest else (other, old) :: put rest key value

/-- The first entry answers for its key, and the others for all other keys. -/
theorem get?_cons (name : String) (value : Value) (table : Table) (key : String) :
    get? ((name, value) :: table) key = if key = name then some value else get? table key := by
  by_cases h : key = name
  · simp [get?, h]
  · simp [get?, List.lookup_cons, beq_eq_false_iff_ne.2 h, h]

/-- What was put under a key is found there, and nothing else changes. -/
theorem get?_put (table : Table) (key : String) (value : Value) (other : String) :
    get? (put table key value) other = if other = key then some value else get? table other := by
  induction table with
  | nil => exact get?_cons key value [] other
  | cons entry table ih =>
    obtain ⟨name, old⟩ := entry
    unfold put
    split <;> grind [get?_cons]

end Table

end GpuCore.Toml
