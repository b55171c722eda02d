/-
The form encoding of names and values in a query: `name=value` pairs
joined by `&`, a space written as `+`, and everything but letters,
digits and `*-._` escaped.
-/
import BucketAcl.Text.Blank
import BucketAcl.Url.Percent

namespace BucketAcl.Url.Form

/-- A character of a name or a value. -/
def encodeChar (c : Char) : List Char :=
  if c = ' ' then ['+'] else Percent.encodeChar Percent.keepInForm c

/-- A name or a value. -/
def encode (cs : List Char) : List Char := cs.flatMap encodeChar

/-- The text of a name or a value. -/
def decode (cs : List Char) : List Char :=
  Percent.decodeText (cs.map fun c => if c = '+' then ' ' else c)

/-- A pair as it stands in a query. -/
def encodePair (name value : List Char) : List Char := encode name ++ '=' :: encode value

/-- The pair of one part of a query; without `=` the value is empty. -/
def decodePair (part : List Char) : List Char × List Char :=
  match Text.cutAt '=' part with
  | some (name, value) => (decode name, decode value)
  | none => (decode part, [])

/-- The pairs of a query, in order; empty parts are none. -/
def pairs (query : List Char) : List (List Char × List Char) :=
  ((query.splitOn '&').filter (· ≠ [])).map decodePair

end BucketAcl.Url.Form
