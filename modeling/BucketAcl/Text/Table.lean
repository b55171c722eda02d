/-
Tables of code points that are written as text. An entry is a code point
or a range of them in hexadecimal, with what the table has for it behind
a colon: `300-314:e6`. A range may leave out every other code point:
`100-12e/2:101`. Entries stand between spaces, on as many lines as they
need, and of two that share a code point the first counts.
-/
import BucketAcl.Text.Blank
import BucketAcl.Text.Hex

namespace BucketAcl.Text

/-- An entry of a table: the code points from `first` to `last` in equal
steps, and what the table has for them. -/
structure Entry where
  first : Nat
  last : Nat
  step : Nat
  values : List Nat
  deriving DecidableEq

/-- A table: its entries. -/
abbrev Table : Type := List Entry

/-- The number of hexadecimal digits. -/
def Hex.number (cs : List Char) : Nat :=
  cs.foldl (fun n c => 16 * n + (value? c).getD 0) 0

namespace Entry

/-- The entry that a text is for. -/
def ofText (cs : List Char) : Entry :=
  let (keys, values) := (cutAt ':' cs).getD (cs, [])
  let (range, step) := (cutAt '/' keys).getD (keys, ['1'])
  let (first, last) := (cutAt '-' range).getD (range, range)
  { first := Hex.number first
    last := Hex.number last
    step := Hex.number step
    values := if values = [] then [] else (values.splitOn '.').map Hex.number }

/-- The entry is for a code point. -/
def has (e : Entry) (n : Nat) : Bool :=
  e.first ≤ n && n ≤ e.last && (n - e.first) % e.step == 0

end Entry

namespace Table

/-- The table of some lines. -/
def ofLines (lines : List String) : Table :=
  lines.flatMap fun line => (line.toList.splitOn ' ').map Entry.ofText

/-- The entry for a character. -/
def find? (t : Table) (c : Char) : Option Entry := List.find? (·.has c.toNat) t

/-- There is an entry for a character. -/
def has (t : Table) (c : Char) : Bool := t.any (·.has c.toNat)

end Table

end BucketAcl.Text
