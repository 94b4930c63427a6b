import GpuCore.Calendar.Instant
import GpuCore.Text.Radix

/-!
# Dates and times

A date, a time of day, or both together with perhaps an offset from universal time.  Seconds may
be missing from a time, and may be leap seconds.

Main definitions:

- `isDateTime`: a whole text is a date, a time of day or both.
-/

namespace GpuCore.Toml

open GpuCore.Calendar GpuCore.Text

/-- The number in the first `count` characters, all digits, and the text behind them. -/
def fixedNat? (count : Nat) (text : List Char) : Option (Nat × List Char) := do
  let digits := text.take count
  let value ← natOfDigits? 10 digits
  if digits.length = count then return (value, text.drop count) else none

/-- The text behind a date. -/
def date? (text : List Char) : Option (List Char) :=
  match fixedNat? 4 text with
  | some (year, '-' :: text) =>
    match fixedNat? 2 text with
    | some (month, '-' :: text) =>
      match fixedNat? 2 text with
      | some (day, text) => if Date.isValid ⟨year, month, day⟩ then some text else none
      | none => none
    | _ => none
  | _ => none

/-- The text behind the fraction of a second, which may be missing. -/
def secondFraction? : List Char → Option (List Char)
  | '.' :: text =>
    if (text.takeWhile Char.isDigit).isEmpty then none else some (text.dropWhile Char.isDigit)
  | text => some text

/-- The text behind the seconds of a time, which may be missing and may be leap seconds. -/
def seconds? : List Char → Option (List Char)
  | ':' :: text => do
    let (second, text) ← fixedNat? 2 text
    if second ≤ 60 then secondFraction? text else none
  | text => some text

/-- The text behind hours and minutes. -/
def hourMinute? (text : List Char) : Option (List Char) :=
  match fixedNat? 2 text with
  | some (hour, ':' :: text) =>
    match fixedNat? 2 text with
    | some (minute, text) => if hour < 24 ∧ minute < 60 then some text else none
    | none => none
  | _ => none

/-- The text behind a time of day. -/
def timeOfDay? (text : List Char) : Option (List Char) := do
  seconds? (← hourMinute? text)

/-- The text behind an offset from universal time, which may be missing. -/
def offset? : List Char → Option (List Char)
  | [] => some []
  | c :: text =>
    if c = 'Z' ∨ c = 'z' then some text
    else if c = '+' ∨ c = '-' then hourMinute? text
    else none

/-- A date, a time of day, or both with perhaps an offset. -/
def isDateTime (text : List Char) : Bool :=
  match date? text with
  | some [] => true
  | some (c :: text) =>
    (c = 'T' || c = 't' || c = ' ') && (timeOfDay? text).bind offset? = some []
  | none => timeOfDay? text = some []

end GpuCore.Toml
