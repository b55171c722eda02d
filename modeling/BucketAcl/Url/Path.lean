/-
The path of a URL. Where it begins with a slash it is a list of encoded
segments, each of which follows a slash; the segments `.` and `..`,
also with escaped dots, never enter the list, they only move the place
at which it grows.
-/
import BucketAcl.Url.Percent

namespace BucketAcl.Url

/-- Segments after slashes, or a text that is not divided. -/
inductive Path where
  | segments (ss : List String)
  | rootless (text : String)
  deriving DecidableEq

/-- The path as it stands in a URL. -/
def Path.text : Path → String
  | segments ss => String.join (ss.map ("/" ++ ·))
  | rootless t => t

namespace Segments

-- ====================================================== dot segments

/-- The text of a segment with escaped dots put plainly. -/
def plainDots : List Char → List Char
  | '%' :: '2' :: 'e' :: r => '.' :: plainDots r
  | '%' :: '2' :: 'E' :: r => '.' :: plainDots r
  | c :: r => c :: plainDots r
  | [] => []

/-- The segment stands for the place where it is. -/
def isHere (segment : List Char) : Bool := plainDots segment == ['.']

/-- The segment stands for the place above. -/
def isAbove (segment : List Char) : Bool := plainDots segment == ['.', '.']

/-- A drive letter: `C:` or `C|`. -/
def isDrive : List Char → Bool
  | [c, mark] => c.isAlpha && (mark == ':' || mark == '|')
  | _ => false

/-- The place above: the last segment is left, unless it is a drive. -/
def above (ss : List String) : List String :=
  match ss.getLast? with
  | some s => if isDrive s.toList then ss else ss.dropLast
  | none => []

-- =========================================================== reading

/-- Tab and line ends, which no URL keeps. -/
def isDropped (c : Char) : Bool := c == '\t' || c == '\n' || c == '\r'

/-- The text without the characters that no URL keeps. -/
def kept (cs : List Char) : List Char := cs.filter fun c => !isDropped c

/-- The pieces of a path between slashes, which a backslash is as well
where the scheme is special. -/
def pieces (isSpecial : Bool) (cs : List Char) : List (List Char) :=
  (cs.map fun c => if isSpecial && c == '\\' then '/' else c).splitOn '/'

/-- The segments `ss` and one more. A last segment that only moves the
place leaves an empty one. -/
def enter (ss : List String) (segment : List Char) (isLast : Bool) : List String :=
  let place (ss : List String) : List String := if isLast then ss ++ [""] else ss
  if isAbove segment then place (above ss)
  else if isHere segment then place ss
  else ss ++ [.ofList (Percent.encode Percent.keepInPath segment)]

/-- The segments of a path that is read, after the `ss` that are read
already. -/
def read (ss : List String) : List (List Char) → List String
  | [] => ss
  | s :: r => read (enter ss s r.isEmpty) r

-- ========================================================= appending

/-- The segments after which an appended one stands: a path that is
only a slash has none. -/
def forAppending : List String → List String
  | [""] => []
  | ss => ss

/-- Appends a segment of arbitrary text. A text that is `.` or `..` is
left out; one that is so only once tabs and line ends are dropped moves
the place. -/
def push (isSpecial : Bool) (ss : List String) (segment : String) : List String :=
  if segment = "." ∨ segment = ".." then ss
  else
    let s := Percent.encode (Percent.keepInSegment isSpecial) (kept segment.toList)
    if isAbove s then above (forAppending ss) ++ [""]
    else if isHere s then forAppending ss ++ [""]
    else forAppending ss ++ [.ofList s]

/-- Leaves out a last segment that is empty, unless it is the only one. -/
def popEmpty (ss : List String) : List String :=
  if 2 ≤ ss.length ∧ ss.getLast? = some "" then ss.dropLast else ss

end Segments

end BucketAcl.Url
