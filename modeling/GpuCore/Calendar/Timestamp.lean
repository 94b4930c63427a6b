import GpuCore.Calendar.Instant
import GpuCore.Text.Blank
import GpuCore.Text.Radix

/-!
# Timestamps

The text form of instants: date, `T`, time of day and offset, as RFC 3339 lays them down.
Instants are written in universal time, with as many fractional digits as they need in groups
of three.  Reading is more lenient: fields may have fewer digits and blanks between them, and
the offset may be any offset of less than a day.

Main definitions:

- `Instant.render`: the timestamp of an instant.
- `Instant.parse?`: the instant of a timestamp.
-/

namespace GpuCore.Calendar

open GpuCore.Text

/-! ## Writing -/

/-- A year has four digits; years outside that range carry their sign. -/
def renderYear (year : Int) : List Char :=
  if 0 ≤ year ∧ year ≤ 9999 then decimalPadded 4 year.toNat
  else (if year < 0 then '-' else '+') :: decimalPadded 4 year.natAbs

/-- The fraction of a second, in no, three, six or nine digits. -/
def renderFraction (nanos : Nat) : List Char :=
  if nanos = 0 then []
  else if nanos % 1000000 = 0 then '.' :: decimalPadded 3 (nanos / 1000000)
  else if nanos % 1000 = 0 then '.' :: decimalPadded 6 (nanos / 1000)
  else '.' :: decimalPadded 9 nanos

/-- The timestamp of an instant.  A leap second is second 60. -/
def Instant.render (instant : Instant) : String :=
  let leap := instant.nanos / 1000000000
  let date := instant.date
  String.ofList <|
    renderYear date.year ++ '-' :: decimalPadded 2 date.month ++
      '-' :: decimalPadded 2 date.day ++
      'T' :: decimalPadded 2 (instant.second / 3600) ++
      ':' :: decimalPadded 2 (instant.second / 60 % 60) ++
      ':' :: decimalPadded 2 (instant.second % 60 + leap) ++
      renderFraction (instant.nanos % 1000000000) ++ ['Z']

/-! ## Reading fields -/

/-- Between one and `most` decimal digits, and the text behind them. -/
def readDigits? (most : Nat) (text : List Char) : Option (Nat × List Char) :=
  let digits := (text.take most).takeWhile Char.isDigit
  (natOfDigits? 10 digits).map fun value => (value, text.drop digits.length)

/-- A number of one or two digits after blanks. -/
def readField? (text : List Char) : Option (Nat × List Char) :=
  readDigits? 2 (trimStart text)

/-- A separator after blanks. -/
def readSeparator? (separator : Char) (text : List Char) : Option (List Char) :=
  match trimStart text with
  | c :: rest => if c = separator then some rest else none
  | [] => none

/-- A year: up to four digits, or any number of digits after a sign. -/
def readYear? (text : List Char) : Option (Int × List Char) :=
  match trimStart text with
  | '-' :: rest => (readDigits? rest.length rest).map fun (year, rest) => (-(year : Int), rest)
  | '+' :: rest => (readDigits? rest.length rest).map fun (year, rest) => ((year : Int), rest)
  | text => (readDigits? 4 text).map fun (year, rest) => ((year : Int), rest)

/-- A date. -/
def readDate? (text : List Char) : Option (Date × List Char) := do
  let (year, text) ← readYear? text
  let (month, text) ← readField? (← readSeparator? '-' text)
  let (day, text) ← readField? (← readSeparator? '-' text)
  return (⟨year, month, day⟩, text)

/-- The fraction of a second in nanoseconds; digits behind the ninth do not count. -/
def readFraction? : List Char → Option (Nat × List Char)
  | '.' :: text => do
    let digits := text.takeWhile Char.isDigit
    let value ← natOfDigits? 10 (digits.take 9)
    return (value * Nat.pow 10 (9 - digits.length), text.drop digits.length)
  | text => some (0, text)

/-- The second of the day and the nanoseconds.  Second 60 is a leap second of any minute. -/
def readTime? (text : List Char) : Option (Nat × Nat × List Char) := do
  let (hour, text) ← readField? text
  let (minute, text) ← readField? (← readSeparator? ':' text)
  let (second, text) ← readField? (← readSeparator? ':' text)
  let (nanos, text) ← readFraction? text
  if hour < 24 ∧ minute < 60 ∧ second ≤ 60 then
    let leap := second / 60
    return (hour * 3600 + minute * 60 + (second - leap), nanos + leap * 1000000000, text)
  else
    none

/-- Two digits. -/
def readTwoDigits? : List Char → Option (Nat × List Char)
  | tens :: ones :: text => (natOfDigits? 10 [tens, ones]).map fun value => (value, text)
  | _ => none

/-- Hours and minutes of an offset, which colons or blanks may separate, in seconds. -/
def readOffsetSeconds? (text : List Char) : Option (Nat × List Char) := do
  let (hours, text) ← readTwoDigits? text
  let (minutes, text) ← readTwoDigits? (text.dropWhile fun c => c = ':' || isBlank c)
  if minutes < 60 then
    return (hours * 3600 + minutes * 60, text)
  else
    none

/-- An offset in seconds: `Z`, `UTC` in any case, or a sign with hours and minutes. -/
def readOffset? (text : List Char) : Option (Int × List Char) :=
  if (text.take 3).map Char.toUpper = ['U', 'T', 'C'] then
    some (0, text.drop 3)
  else
    match text with
    | c :: rest =>
      if c = 'Z' ∨ c = 'z' then some (0, rest)
      else if c = '+' then
        (readOffsetSeconds? rest).map fun (seconds, rest) => ((seconds : Int), rest)
      else if c = '-' ∨ c.toNat = 0x2212 then
        (readOffsetSeconds? rest).map fun (seconds, rest) => (-(seconds : Int), rest)
      else none
    | [] => none

/-! ## Timestamps -/

/-- The separator between date and time, and the text behind it. -/
def dropDateEnd? : List Char → Option (List Char)
  | c :: text => if c = 'T' ∨ c = 't' ∨ c = ' ' then some text else none
  | [] => none

/-- The instant of a timestamp.  Only blanks may follow it. -/
def Instant.parse? (timestamp : String) : Option Instant := do
  let (date, text) ← readDate? timestamp.toList
  let (second, nanos, text) ← readTime? (← dropDateEnd? text)
  let (offset, text) ← readOffset? (trimStart text)
  if (trimStart text).isEmpty ∧ offset.natAbs < daySeconds ∧ date.isValid then
    Instant.ofLocal? date second nanos offset
  else
    none

end GpuCore.Calendar
