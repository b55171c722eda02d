/-
The five ways to write a scalar: plain, between single or double quotes,
and as a literal or folded block. Each reader takes a text from behind
the mark that opens the scalar and gives the scalar's characters and the
rest. What they share is the gap: white space and line ends between two
words, of which a scalar keeps less than was written.
-/
import BucketAcl.Text.Hex
import BucketAcl.Yaml.Placed

namespace BucketAcl.Yaml

open Placed

-- =============================================================== gaps

/-- White space and line ends between two words. White space counts up
to the first line end, which is kept apart from those that follow. -/
structure Gap where
  blanks : List Char := []
  isBroken : Bool := false
  first : List Char := []
  more : List Char := []

namespace Gap

/-- A gap that a line end opens which leaves no trace. -/
def escaped : Gap := { isBroken := true }

/-- Whether nothing stands in the gap. -/
def isEmpty (g : Gap) : Bool := !g.isBroken && g.blanks.isEmpty

/-- The gap with one more character of white space or line end. -/
def add (g : Gap) (c : Char) : Gap :=
  if isBreak c then
    if g.isBroken then { g with more := g.more ++ [c] }
    else { g with isBroken := true, first := [c] }
  else if g.isBroken then g
  else { g with blanks := g.blanks ++ [c] }

/-- The line ends as they stand. -/
def breaks (g : Gap) : List Char := g.first ++ g.more

/-- What is left of a gap once it is folded: a single line feed becomes
a space, and of several the first is dropped. -/
def folded (g : Gap) : List Char :=
  if !g.isBroken then g.blanks
  else if g.first = ['\n'] then if g.more = [] then [' '] else g.more
  else g.breaks

end Gap

/-- Characters in front of what a reader gave. -/
def before (cs : List Char) (read : Option (List Char × List Placed)) :
    Option (List Char × List Placed) :=
  read.map fun (a, r) => (cs ++ a, r)

-- ====================================================== plain scalars

/-- Characters that end a plain scalar within brackets. -/
def endsInFlow (c : Char) : Bool := c == ',' || c == '[' || c == ']' || c == '{' || c == '}'

/-- Whether a plain scalar has ended with the gap before these
characters: at a remark, at a mark between documents, or on a line that
does not reach the column `floor`. -/
def endsAfterGap (inFlow : Bool) (floor : Nat) (g : Gap) (ps : List Placed) : Bool :=
  !g.isEmpty && (headIs (· == '#') ps || atMarker ps
    || match ps with
      | [] => false
      | p :: _ => g.isBroken && !inFlow && p.column < floor)

/-- A plain scalar from a gap within it on: its characters, whether a
line ended after its last word, and the rest. -/
def plain (inFlow : Bool) (floor : Nat) :
    Gap → List Placed → Option (List Char × Bool × List Placed)
  | g, [] => some ([], g.isBroken, [])
  | g, p :: r =>
    if isGap p.char || isBreak p.char then
      if g.isBroken && p.char == '\t' && p.column < floor then none
      else plain inFlow floor (g.add p.char) r
    else if endsAfterGap inFlow floor g (p :: r) then some ([], g.isBroken, p :: r)
    else if inFlow && p.char == ':' && headIs (fun c => endsInFlow c || c == '?') r then none
    else if (p.char == ':' && atEdge r) || (inFlow && endsInFlow p.char) then
      some ([], g.isBroken, p :: r)
    else
      (plain inFlow floor {} r).map fun (cs, rest) => (g.folded ++ p.char :: cs, rest)

-- ============================================================= quotes

/-- A scalar between single quotes, from a gap within it on. A quote is
written twice. -/
def singleQuoted : Gap → List Placed → Option (List Char × List Placed)
  | _, [] => none
  | g, p :: r =>
    if isGap p.char || isBreak p.char then singleQuoted (g.add p.char) r
    else if atMarker (p :: r) then none
    else if p.char = '\'' then
      match r with
      | [] => some (g.folded, [])
      | q :: s =>
        if q.char = '\'' then before (g.folded ++ ['\'']) (singleQuoted {} s)
        else some (g.folded, q :: s)
    else before (g.folded ++ [p.char]) (singleQuoted {} r)

/-- The character that a letter stands for after a backslash. -/
def escape? (c : Char) : Option Char :=
  match c with
  | '0' => some '\x00'
  | 'a' => some '\x07'
  | 'b' => some '\x08'
  | 't' | '\t' => some '\t'
  | 'n' => some '\n'
  | 'v' => some '\x0b'
  | 'f' => some '\x0c'
  | 'r' => some '\r'
  | 'e' => some '\x1b'
  | ' ' | '"' | '/' | '\\' => some c
  | 'N' => some '\u0085'
  | '_' => some '\u00a0'
  | 'L' => some '\u2028'
  | 'P' => some '\u2029'
  | _ => none

/-- How many digits follow a letter after a backslash. -/
def escapeLength : Char → Nat
  | 'x' => 2
  | 'u' => 4
  | 'U' => 8
  | _ => 0

/-- The character whose number the first `n` characters are, in hex. -/
def numbered? (n : Nat) (ps : List Placed) : Option Char := do
  let digits ← (chars (ps.take n)).mapM Text.Hex.value?
  let value := digits.foldl (fun v d => 16 * v + d) 0
  if digits.length = n ∧ value.isValidChar then return Char.ofNat value else none

/-- A scalar between double quotes, from a gap within it on. -/
def doubleQuoted (g : Gap) : List Placed → Option (List Char × List Placed)
  | [] => none
  | p :: r =>
    if isGap p.char || isBreak p.char then doubleQuoted (g.add p.char) r
    else if atMarker (p :: r) then none
    else if p.char = '"' then some (g.folded, r)
    else if p.char = '\\' then
      match r with
      | [] => none
      | e :: s =>
        let n := escapeLength e.char
        if isBreak e.char then before g.folded (doubleQuoted .escaped s)
        else
          match if n = 0 then escape? e.char else numbered? n s with
          | none => none
          | some c => before (g.folded ++ [c]) (doubleQuoted {} (s.drop n))
    else before (g.folded ++ [p.char]) (doubleQuoted {} r)
termination_by ps => ps.length
decreasing_by all_goals simp_wf <;> omega

-- ============================================================= blocks

/-- What becomes of the line ends after the last word of a block. -/
inductive Chomp where
  | strip
  | clip
  | keep

namespace Chomp

/-- Reads the mark for the last line ends, if one is at the head. -/
def take : List Placed → Chomp × List Placed
  | [] => (clip, [])
  | p :: r =>
    if p.char = '+' then (keep, r) else if p.char = '-' then (strip, r) else (clip, p :: r)

/-- What is left of the gap at the end. -/
def tail : Chomp → Gap → List Char
  | strip, _ => []
  | clip, g => g.first
  | keep, g => g.breaks

end Chomp

/-- Reads the depth of a block, from 1 to 9, if one is at the head; zero
is for none. -/
def takeDepth : List Placed → Option (Nat × List Placed)
  | [] => some (0, [])
  | p :: r =>
    if p.char = '0' then none
    else if p.char.isDigit then some (p.char.toNat - '0'.toNat, r)
    else some (0, p :: r)

/-- Reads the marks of a block, which come in either order. -/
def takeMarks (ps : List Placed) : Option (Chomp × Nat × List Placed) :=
  if headIs (fun c => c == '+' || c == '-') ps then
    let (chomp, r) := Chomp.take ps
    (takeDepth r).map fun (depth, r) => (chomp, depth, r)
  else
    (takeDepth ps).map fun (depth, r) =>
      let (chomp, r) := Chomp.take r
      (chomp, depth, r)

/-- The depth of a block that does not give it: the column of its first
word, or of the end of a longer line of spaces before that. -/
def foundDepth (deepest : Nat) : List Placed → Option Nat
  | [] => some deepest
  | p :: r =>
    if p.char = ' ' then foundDepth (max deepest (p.column + 1)) r
    else if p.char = '\t' then none
    else if isBreak p.char then foundDepth deepest r
    else some deepest

/-- The lines of a block from the column `depth` on, with the gap at
their end. `isIndented` says whether the last line began with white
space, and there is a gap between two lines only. -/
def blockLines (isLiteral : Bool) (depth : Nat) :
    Bool → Option Gap → List Placed → Option (List Char × Gap × List Placed)
  | _, g, [] => some ([], g.getD {}, [])
  | isIndented, none, p :: r =>
    if isBreak p.char then
      blockLines isLiteral depth isIndented (some (Gap.add {} p.char)) r
    else
      (blockLines isLiteral depth isIndented none r).map fun (cs, rest) =>
        (p.char :: cs, rest)
  | isIndented, some g, p :: r =>
    if isBreak p.char then blockLines isLiteral depth isIndented (some (g.add p.char)) r
    else if p.column < depth then
      if p.char = ' ' then blockLines isLiteral depth isIndented (some g) r
      else if p.char = '\t' then none
      else some ([], g, p :: r)
    else
      let isBlank := isGap p.char
      let lead := if isLiteral || isIndented || isBlank then g.breaks else g.folded
      (blockLines isLiteral depth isBlank none r).map fun (cs, rest) =>
        (lead ++ p.char :: cs, rest)

/-- A block scalar, from its marks on, within a block whose contents
stand at the column `floor` or behind. -/
def block (isLiteral : Bool) (floor : Nat) (ps : List Placed) :
    Option (List Char × List Placed) := do
  let (chomp, given, r) ← takeMarks ps
  let r ← endLine? r
  let depth ← if given = 0 then (foundDepth (max 1 floor) r) else some (floor - 1 + given)
  let (cs, g, rest) ← blockLines isLiteral depth false (some .escaped) r
  return (cs ++ chomp.tail g, rest)

end BucketAcl.Yaml
