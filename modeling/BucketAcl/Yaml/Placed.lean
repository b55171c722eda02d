/-
The characters of a configuration text with their places. Structure in
such a text is a matter of columns, so every reader works on characters
that carry their line and column; a rest of the text then knows where it
stands. How far apart two places of a line are is counted in bytes.
Line ends are settled here: each of the four plain ones is one line feed
from here on, the two separators of Unicode stay themselves.
-/
import BucketAcl.Text.Utf8

namespace BucketAcl.Yaml

/-- A character, with its line and its column counted from zero, and the
number of bytes that are before it in the line. -/
structure Placed where
  char : Char
  line : Nat
  column : Nat
  offset : Nat
  deriving DecidableEq

/-- Characters that may stand in a text at all. -/
def isAdmissible (c : Char) : Bool :=
  c == '\t' || c == '\n' || c == '\r' || (' ' ≤ c && c ≤ '~') || c == '\u0085'
    || ('\u00a0' ≤ c && c ≤ '\ufffd') || 0xffff < c.toNat

/-- Line ends, once they are settled. -/
def isBreak (c : Char) : Bool := c == '\n' || c == '\u2028' || c == '\u2029'

/-- White space within a line. -/
def isGap (c : Char) : Bool := c == ' ' || c == '\t'

/-- Characters of the names of anchors, tags and directives. -/
def isWord (c : Char) : Bool := c.isAlphanum || c == '_' || c == '-'

/-- The characters with their places, from a place on. -/
def placed (line column offset : Nat) : List Char → List Placed
  | [] => []
  | '\r' :: '\n' :: r => ⟨'\n', line, column, offset⟩ :: placed (line + 1) 0 0 r
  | c :: r =>
    let settled := if c = '\r' ∨ c = '\u0085' then '\n' else c
    ⟨settled, line, column, offset⟩
      :: if isBreak settled then placed (line + 1) 0 0 r
        else placed line (column + 1) (offset + c.utf8Size) r

/-- The characters of a text with their places, if all may stand there. -/
def placed? (bytes : List UInt8) : Option (List Placed) := do
  let text ← Text.Utf8.strict? bytes
  if text.toList.all isAdmissible then return placed 0 0 0 text.toList else none

namespace Placed

/-- The characters alone. -/
def chars (ps : List Placed) : List Char := ps.map Placed.char

/-- Whether a character of a class stands at the head. -/
def headIs (p : Char → Bool) : List Placed → Bool
  | [] => false
  | c :: _ => p c.char

/-- Whether white space, a line end or the end of the text is at the
head. -/
def atEdge : List Placed → Bool
  | [] => true
  | c :: _ => isGap c.char || isBreak c.char

/-- Whether a line begins that the mark `---` or `...` opens. -/
def atMarker (ps : List Placed) : Bool :=
  match ps with
  | a :: b :: c :: r =>
    a.column == 0 && a.char == b.char && b.char == c.char
      && (a.char == '-' || a.char == '.') && atEdge r
  | _ => false

/-- The rest of the text from the end of the line on. -/
def dropLine (ps : List Placed) : List Placed := ps.dropWhile fun c => !isBreak c.char

/-- The rest after white space within the line. -/
def dropGap (ps : List Placed) : List Placed := ps.dropWhile fun c => isGap c.char

/-- The rest after white space, a remark and the end of a line, if no
more than that is left of the line. -/
def endLine? (ps : List Placed) : Option (List Placed) :=
  let r := dropGap ps
  match if headIs (· == '#') r then dropLine r else r with
  | [] => some []
  | c :: r => if isBreak c.char then some r else none

end Placed

end BucketAcl.Yaml
