/-
Dates as in mail headers, `Mon, 12 Oct 2009 17:50:00 GMT`, which replies
give as the time of the last change. Reading is generous: the weekday
and the seconds may be missing, years may be short, old names of time
zones and comments are understood.
-/
import BucketAcl.Text.Blank
import BucketAcl.Time.Civil

namespace BucketAcl.Time.Mail

open Text

-- ============================================================== parts

/-- The names of the days, from Monday. -/
def dayNames : List String := ["Mon", "Tue", "Wed", "Thu", "Fri", "Sat", "Sun"]

/-- The names of the months. -/
def monthNames : List String :=
  ["Jan", "Feb", "Mar", "Apr", "May", "Jun", "Jul", "Aug", "Sep", "Oct", "Nov", "Dec"]

/-- The place of a name of three letters, in either case. -/
def readName (names : List String) (cs : List Char) : Option (Nat × List Char) := do
  let word := (cs.take 3).map Char.toLower
  let i ← names.findIdx? fun n => n.toList.map Char.toLower == word
  return (i, cs.drop 3)

/-- The value of decimal digits. -/
def value (digits : List Char) : Nat :=
  digits.foldl (fun n c => 10 * n + (c.toNat - '0'.toNat)) 0

/-- A number of at least `least` digits, of which at most `most` are
taken. -/
def readNumber (least most : Nat) (cs : List Char) : Option (Nat × List Char) := do
  let digits := (cs.take most).takeWhile Char.isDigit
  guard (least ≤ digits.length)
  return (value digits, cs.drop digits.length)

/-- White space, of which there must be some. -/
def readSpace (cs : List Char) : Option (List Char) := do
  let c ← cs.head?
  guard (isBlank c)
  return cs.dropWhile isBlank

/-- A colon after white space. -/
def readColon (cs : List Char) : Option (List Char) :=
  match cs.dropWhile isBlank with
  | ':' :: r => some r
  | _ => none

/-- The weekday before a comma, if the text begins with one; a weekday
without its comma is refused. -/
def readWeekday (cs : List Char) : Option (Option Nat × List Char) :=
  match readName dayNames cs with
  | none => some (none, cs)
  | some (day, ',' :: r) => some (some day, r)
  | some _ => none

/-- A year: of two digits in the hundred years up to 2049, of three
digits counted from 1900. -/
def readYear (cs : List Char) : Option (Nat × List Char) := do
  let digits := cs.takeWhile Char.isDigit
  guard (2 ≤ digits.length)
  let n := value digits
  let year :=
    if digits.length = 2 then (if n < 50 then n + 2000 else n + 1900)
    else if digits.length = 3 then n + 1900
    else n
  return (year, cs.drop digits.length)

-- =============================================================== zone

/-- Hours by which the named zones differ. -/
def zones : List (String × Int) :=
  [("gmt", 0), ("ut", 0), ("edt", -4), ("est", -5), ("cdt", -5), ("cst", -6), ("mdt", -6),
    ("mst", -7), ("pdt", -7), ("pst", -8)]

/-- The seconds of a numeric zone `+hhmm`. -/
def readNumericZone (cs : List Char) : Option (Int × List Char) :=
  match cs with
  | sign :: a :: b :: c :: d :: r =>
    if (sign = '+' ∨ sign = '-') ∧ [a, b, c, d].all Char.isDigit ∧ c < '6' then
      let seconds := value [a, b] * 3600 + value [c, d] * 60
      if seconds < 86400 then some (if sign = '-' then -seconds else seconds, r) else none
    else none
  | _ => none

/-- The seconds by which a zone is ahead: one of the names, a single
letter but `J`, which says nothing, or a number. -/
def readZone (cs : List Char) : Option (Int × List Char) :=
  match cs.takeWhile Char.isAlpha with
  | [] => readNumericZone cs
  | name =>
    let lower := name.map Char.toLower
    match zones.lookup (.ofList lower) with
    | some hours => some (hours * 3600, cs.drop name.length)
    | none => if name.length = 1 ∧ lower ≠ ['j'] then some (0, cs.drop 1) else none

/-- The rest after the comment that a text is inside of, so many levels
deep. -/
def skipComment : Nat → Bool → List Char → Option (List Char)
  | _, _, [] => none
  | depth, true, _ :: r => skipComment depth false r
  | depth, false, c :: r =>
    if c = '\\' then skipComment depth true r
    else if c = '(' then skipComment (depth + 1) false r
    else if c = ')' then (if depth = 0 then some r else skipComment (depth - 1) false r)
    else skipComment depth false r

/-- Only comments are left, with white space before each. -/
def onlyComments (fuel : Nat) (cs : List Char) : Bool :=
  match fuel, cs with
  | _, [] => true
  | 0, _ => false
  | fuel + 1, _ =>
    match cs.dropWhile isBlank with
    | '(' :: r =>
      match skipComment 0 false r with
      | some rest => onlyComments fuel rest
      | none => false
    | _ => false

-- =============================================================== date

/-- The greatest year of a date, where it is read and in universal time. -/
def maxYear : Nat := 262142

/-- The instant of a date in a mail header. -/
def parse? (s : String) : Option Instant := do
  let (day?, cs) ← readWeekday (s.toList.dropWhile isBlank)
  let (day, cs) ← readNumber 1 2 (cs.dropWhile isBlank)
  let (month0, cs) ← readName monthNames (← readSpace cs)
  let (year, cs) ← readYear (← readSpace cs)
  let (hour, cs) ← readNumber 2 2 (← readSpace cs)
  let (minute, cs) ← readNumber 2 2 ((← readColon cs).dropWhile isBlank)
  let (second, cs) ←
    match readColon cs with
    | some r => readNumber 2 2 r
    | none => some (0, cs)
  let (offset, cs) ← readZone (← readSpace cs)
  guard (onlyComments (cs.length + 1) cs)
  guard (year ≤ maxYear ∧ 1 ≤ day ∧ day ≤ Date.daysInMonth year (month0 + 1))
  guard (hour < 24 ∧ minute < 60 ∧ second ≤ 60)
  let days := Date.toDays ⟨year, month0 + 1, day⟩
  guard (day?.all (· == weekday days))
  let seconds := days * 86400 + hour * 3600 + minute * 60 + (min second 59 : Nat) - offset
  let instant : Instant := { seconds, inLeapSecond := second = 60 }
  guard (instant.date.year ≤ maxYear)
  return instant

/-- An instant as in a mail header, in universal time. -/
def text (t : Instant) : String :=
  let (h, m, s) := t.clock
  dayNames[weekday t.days]?.getD "" ++ ", " ++ toString t.date.day ++ " "
    ++ monthNames[t.date.month - 1]?.getD "" ++ " " ++ padded 4 t.date.year.toNat ++ " "
    ++ padded 2 h ++ ":" ++ padded 2 m ++ ":" ++ padded 2 s ++ " +0000"

end BucketAcl.Time.Mail
