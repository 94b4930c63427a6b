/-!
# Instants

An instant is a date of the proleptic Gregorian calendar with a time of day, in universal time.
During a leap second the time stands at the last ordinary second, and its nanoseconds go on
beyond a full second.

Main definitions:

- `Date` and `Date.isValid`.
- `Date.next` and `Date.previous`: the neighboring days.
- `Instant` and `Instant.ofLocal?`: the instant of a local time with an offset.
-/

namespace GpuCore.Calendar

/-! ## Dates -/

/-- A date. -/
structure Date where
  year : Int
  month : Nat
  day : Nat
deriving DecidableEq, Repr, Inhabited

/-- Whether February of a year has 29 days. -/
def isLeapYear (year : Int) : Bool :=
  year % 4 = 0 && (year % 100 ≠ 0 || year % 400 = 0)

/-- Days of a month, zero if there is no such month. -/
def daysInMonth (year : Int) (month : Nat) : Nat :=
  match month with
  | 1 | 3 | 5 | 7 | 8 | 10 | 12 => 31
  | 4 | 6 | 9 | 11 => 30
  | 2 => if isLeapYear year then 29 else 28
  | _ => 0

/-- The earliest year that can be represented. -/
def firstYear : Int := -262143

/-- The latest year that can be represented. -/
def lastYear : Int := 262142

namespace Date

/-- The date exists and its year can be represented. -/
def isValid (date : Date) : Bool :=
  firstYear ≤ date.year && date.year ≤ lastYear && 1 ≤ date.day &&
    date.day ≤ daysInMonth date.year date.month

/-- The day after a date. -/
def next (date : Date) : Date :=
  if date.day < daysInMonth date.year date.month then { date with day := date.day + 1 }
  else if date.month < 12 then { date with month := date.month + 1, day := 1 }
  else ⟨date.year + 1, 1, 1⟩

/-- The day before a date. -/
def previous (date : Date) : Date :=
  if 1 < date.day then { date with day := date.day - 1 }
  else if 1 < date.month then
    { date with month := date.month - 1, day := daysInMonth date.year (date.month - 1) }
  else ⟨date.year - 1, 12, 31⟩

end Date

/-! ## Instants -/

/-- Seconds of a day. -/
def daySeconds : Int := 86400

/-- A date and a time of day in universal time. -/
structure Instant where
  date : Date
  /-- Second of the day. -/
  second : Nat
  /-- Nanoseconds, a full second or more during a leap second. -/
  nanos : Nat
deriving DecidableEq, Repr, Inhabited

namespace Instant

/-- The beginning of the year 1970. -/
def epoch : Instant := ⟨⟨1970, 1, 1⟩, 0, 0⟩

/-- The instant of a local time that is `offset` seconds, less than a day, ahead of universal
time; `none` if the date cannot be represented. -/
def ofLocal? (date : Date) (second nanos : Nat) (offset : Int) : Option Instant :=
  let universal := (second : Int) - offset
  let date :=
    if universal < 0 then date.previous
    else if universal < daySeconds then date
    else date.next
  if date.isValid then some ⟨date, (universal % daySeconds).toNat, nanos⟩ else none

end Instant

end GpuCore.Calendar
