/-
Days and dates of the Gregorian calendar, counted from 1 January 1970
and carried on in both directions, and the texts of an instant that
requests and answers show.
-/
namespace BucketAcl.Time

/-- A day of the calendar. -/
structure Date where
  year : Int
  month : Nat
  day : Nat
  deriving DecidableEq

namespace Date

/-- Whether a year has a 29 February. -/
def isLeapYear (year : Int) : Bool := year % 4 == 0 && (year % 100 != 0 || year % 400 == 0)

/-- The number of days of a month. -/
def daysInMonth (year : Int) (month : Nat) : Nat :=
  if month = 2 then (if isLeapYear year then 29 else 28)
  else if month = 4 ∨ month = 6 ∨ month = 9 ∨ month = 11 then 30 else 31

/-- The date of a day count. The count is taken in cycles of 400 years
that begin on 1 March, so that a leap day comes last. -/
def ofDays (days : Int) : Date :=
  let shifted := days + 719468
  let cycle := shifted / 146097
  let inCycle := (shifted % 146097).toNat
  let yearOfCycle := (inCycle - inCycle / 1460 + inCycle / 36524 - inCycle / 146096) / 365
  let dayOfYear := inCycle - (365 * yearOfCycle + yearOfCycle / 4 - yearOfCycle / 100)
  let monthFromMarch := (5 * dayOfYear + 2) / 153
  let day := dayOfYear - (153 * monthFromMarch + 2) / 5 + 1
  let month := if monthFromMarch < 10 then monthFromMarch + 3 else monthFromMarch - 9
  ⟨cycle * 400 + yearOfCycle + (if month ≤ 2 then 1 else 0), month, day⟩

/-- The day count of a date. -/
def toDays (d : Date) : Int :=
  let year := if d.month ≤ 2 then d.year - 1 else d.year
  let cycle := year / 400
  let yearOfCycle := (year % 400).toNat
  let monthFromMarch := if d.month > 2 then d.month - 3 else d.month + 9
  let dayOfYear := (153 * monthFromMarch + 2) / 5 + d.day - 1
  let inCycle := yearOfCycle * 365 + yearOfCycle / 4 - yearOfCycle / 100 + dayOfYear
  cycle * 146097 + inCycle - 719468

end Date

/-- The day of the week of a day count, from 0 for Monday. -/
def weekday (days : Int) : Nat := ((days + 3) % 7).toNat

-- =========================================================== instants

/-- A second of time, counted from the beginning of 1970; in a leap
second the count stays at the second before. -/
structure Instant where
  seconds : Int
  inLeapSecond : Bool := false
  deriving DecidableEq

namespace Instant

/-- The day on which the instant lies. -/
def days (t : Instant) : Int := t.seconds / 86400

/-- The date of the instant. -/
def date (t : Instant) : Date := .ofDays t.days

/-- The seconds of the day that have passed. -/
def secondOfDay (t : Instant) : Nat := (t.seconds % 86400).toNat

/-- Hour, minute and second. -/
def clock (t : Instant) : Nat × Nat × Nat :=
  let s := t.secondOfDay
  (s / 3600, s / 60 % 60, s % 60 + (if t.inLeapSecond then 1 else 0))

end Instant

-- ============================================================== texts

/-- A number with zeros in front of it, up to a width. -/
def padded (width : Nat) (n : Nat) : String :=
  let digits := Nat.toDigits 10 n
  .ofList (List.replicate (width - digits.length) '0' ++ digits)

/-- A year: four digits, and a sign where that is not enough. -/
def yearText (year : Int) : String :=
  if 0 ≤ year ∧ year ≤ 9999 then padded 4 year.toNat
  else (if year < 0 then "-" else "+") ++ padded 4 year.natAbs

namespace Instant

/-- The date as `20130524`. -/
def basicDate (t : Instant) : String :=
  yearText t.date.year ++ padded 2 t.date.month ++ padded 2 t.date.day

/-- Date and time as `20130524T000000Z`. -/
def basicText (t : Instant) : String :=
  let (h, m, s) := t.clock
  t.basicDate ++ "T" ++ padded 2 h ++ padded 2 m ++ padded 2 s ++ "Z"

/-- Date and time of day as `2013-05-24T00:00:00`. -/
def extendedText (t : Instant) : String :=
  let (h, m, s) := t.clock
  yearText t.date.year ++ "-" ++ padded 2 t.date.month ++ "-" ++ padded 2 t.date.day
    ++ "T" ++ padded 2 h ++ ":" ++ padded 2 m ++ ":" ++ padded 2 s

end Instant

end BucketAcl.Time
