/-
The tokens of a configuration text. Columns open and close block
collections, and a scalar may turn out to be a key only when the colon
behind it is read: such a key is remembered, and the tokens that go in
front of it are then put there. Between brackets columns mean nothing,
and each pair of brackets remembers a key of its own.
-/
import BucketAcl.Yaml.Scalar
import BucketAcl.Yaml.Tag

namespace BucketAcl.Yaml

open Placed

/-- A token. `dash`, `question` and `colon` open an item, a key and a
value; `blockEnd` closes either kind of block collection. -/
inductive Token where
  | directive (d : Directive)
  | documentStart
  | documentEnd
  | blockSequence
  | blockMapping
  | blockEnd
  | flowSequence
  | flowSequenceEnd
  | flowMapping
  | flowMappingEnd
  | comma
  | dash
  | question
  | colon
  | alias (name : String)
  | anchor (name : String)
  | tag (t : Tag)
  | scalar (text : String) (isPlain : Bool)
  deriving DecidableEq

/-- A place where a key may have begun: how many tokens are before it,
where it stands, and whether it has to be one. -/
structure Key where
  tokens : Nat
  place : Placed
  isRequired : Bool

/-- Whether what began at a key is too far away to be one: on another
line, or more than 1024 bytes before. -/
def Key.isStale (k : Key) (here : Placed) : Bool :=
  k.place.line < here.line || k.place.offset + 1024 < here.offset

/-- A text that is read in part: its rest, the tokens so far with the
last one first, the columns of the block collections that are open with
the innermost first, the possible key here and those around the open
brackets, and whether a key may begin here. -/
structure Scan where
  rest : List Placed
  tokens : List Token := []
  columns : List Nat := []
  key : Option Key := none
  outer : List (Option Key) := []
  mayBeKey : Bool := true

namespace Scan

/-- Whether brackets are open. -/
def inFlow (s : Scan) : Bool := !s.outer.isEmpty

/-- The first column that is within the innermost block collection. -/
def floor (s : Scan) : Nat :=
  match s.columns with
  | [] => 0
  | c :: _ => c + 1

/-- One more token, and what is left to read behind it. -/
def push (s : Scan) (t : Token) (rest : List Placed) : Scan :=
  { s with tokens := t :: s.tokens, rest }

/-- A token put in front of all but the first `n`. -/
def insert (s : Scan) (n : Nat) (t : Token) : Scan :=
  { s with tokens := s.tokens.insertIdx (s.tokens.length - n) t }

-- ================================================= block collections

/-- Opens a block collection at a column, unless one is open there. Its
token goes behind the first `n`. -/
def openBlock (s : Scan) (column n : Nat) (t : Token) : Scan :=
  if !s.inFlow && s.floor ≤ column then
    { s.insert n t with columns := column :: s.columns }
  else s

/-- Closes the block collections that stand behind a column. -/
def closeBlocks (s : Scan) (isBehind : Nat → Bool) : Scan :=
  if s.inFlow then s
  else
    { s with
      tokens := (s.columns.takeWhile isBehind).map (fun _ => .blockEnd) ++ s.tokens
      columns := s.columns.dropWhile isBehind }

-- ====================================================== possible keys

/-- The possible key without those that are too far away; one that has
to be a key may not be lost. -/
def freshKey (here : Placed) : Option Key → Option (Option Key)
  | none => some none
  | some k =>
    if !k.isStale here then some (some k) else if k.isRequired then none else some none

/-- Forgets all possible keys that are too far away. -/
def dropStaleKeys (s : Scan) (here : Placed) : Option Scan := do
  return { s with
    key := ← freshKey here s.key
    outer := ← s.outer.mapM (freshKey here) }

/-- Forgets the possible key here. -/
def dropKey (s : Scan) : Option Scan :=
  if s.key.any Key.isRequired then none else some { s with key := none }

/-- Remembers that a key may begin here. It has to be one where it
stands at the column of an open block collection. -/
def saveKey (s : Scan) (here : Placed) : Option Scan :=
  if s.mayBeKey then
    s.dropKey.map fun s =>
      { s with
        key := some
          { tokens := s.tokens.length
            place := here
            isRequired := !s.inFlow && s.columns.head? == some here.column } }
  else some s

-- ========================================================= next token

/-- The rest from the next token on, and whether a key may begin there.
White space and remarks are skipped, and a key may begin on each new
line of a block. A tab does not count as white space where it would
make up a column. -/
def skip (inFlow : Bool) (mayBeKey inRemark : Bool) : List Placed → Bool × List Placed
  | [] => (mayBeKey, [])
  | p :: r =>
    if isBreak p.char then skip inFlow (mayBeKey || !inFlow) false r
    else if inRemark || p.char == ' ' || (p.char == '\t' && (inFlow || !mayBeKey))
        || (p.char == '\ufeff' && p.column == 0) then
      skip inFlow mayBeKey inRemark r
    else if p.char = '#' then skip inFlow mayBeKey true r
    else (mayBeKey, p :: r)

/-- Goes on to the next token, and closes the block collections that
have ended before it. -/
def settle (s : Scan) : Option Scan :=
  let (mayBeKey, rest) := skip s.inFlow s.mayBeKey false s.rest
  let s := { s with mayBeKey, rest }
  match rest with
  | [] => (s.closeBlocks fun _ => true).dropKey
  | p :: _ => (s.dropStaleKeys p).map (·.closeBlocks (p.column < ·))

/-- A mark that stands at the head of a line outside of all blocks. -/
def outside (s : Scan) (t : Token) (rest : List Placed) : Option Scan := do
  let s ← (s.closeBlocks fun _ => true).dropKey
  return { s.push t rest with mayBeKey := false }

/-- An opening bracket. -/
def openFlow (s : Scan) (p : Placed) (t : Token) (r : List Placed) : Option Scan := do
  let s ← s.saveKey p
  return { s.push t r with outer := s.key :: s.outer, key := none, mayBeKey := true }

/-- A closing bracket. -/
def closeFlow (s : Scan) (t : Token) (r : List Placed) : Option Scan := do
  let s ← s.dropKey
  return { s.push t r with
    key := s.outer.head?.join
    outer := s.outer.tail
    mayBeKey := false }

/-- A mark that opens an item or a key of a block collection. -/
def openItem (s : Scan) (p : Placed) (collection t : Token) (r : List Placed) :
    Option Scan := do
  if !s.inFlow && !s.mayBeKey then none
  else
    let s ← (s.openBlock p.column s.tokens.length collection).dropKey
    return s.push t r

/-- A colon: what was a possible key now is one, and otherwise the value
goes with a key that a question mark opened. -/
def takeColon (s : Scan) (p : Placed) (r : List Placed) : Option Scan :=
  match s.key with
  | some k =>
    let s := (s.insert k.tokens .question).openBlock k.place.column k.tokens .blockMapping
    some { s.push .colon r with key := none, mayBeKey := false }
  | none =>
    if !s.inFlow && !s.mayBeKey then none
    else
      let s := s.openBlock p.column s.tokens.length .blockMapping
      some { s.push .colon r with mayBeKey := !s.inFlow }

/-- Marks that may follow the name of an anchor or alias at once. -/
def endsName (c : Char) : Bool := ['?', ':', ',', ']', '}', '%', '@', '\x60'].contains c

/-- The name of an anchor or alias, and the rest. -/
def takeName (ps : List Placed) : Option (String × List Placed) :=
  let name := chars (ps.takeWhile fun c => isWord c.char)
  let r := ps.drop name.length
  if name ≠ [] ∧ (atEdge r || headIs endsName r) then
    some (.ofList name, r)
  else none

/-- A token that can be a key or open one. -/
def takeWord (s : Scan) (p : Placed) (read : Option (Token × List Placed)) :
    Option Scan := do
  let s ← s.saveKey p
  let (t, rest) ← read
  return { s.push t rest with mayBeKey := false }

/-- A plain scalar. Where lines ended after it, a key may begin. -/
def takePlain (s : Scan) (p : Placed) (r : List Placed) : Option Scan := do
  let s ← s.saveKey p
  let (cs, isBroken, rest) ← plain s.inFlow s.floor {} (p :: r)
  return { s.push (.scalar (.ofList cs) true) rest with mayBeKey := isBroken }

/-- A block scalar. -/
def takeBlock (s : Scan) (isLiteral : Bool) (r : List Placed) : Option Scan := do
  let s ← s.dropKey
  let (cs, rest) ← block isLiteral s.floor r
  return { s.push (.scalar (.ofList cs) false) rest with mayBeKey := true }

/-- Marks that no plain scalar begins with. -/
def isMark (c : Char) : Bool :=
  ['-', '?', ':', ',', '[', ']', '{', '}', '#', '&', '*', '!', '|', '>', '\'', '"', '%', '@',
    '\x60'].contains c

/-- Whether a plain scalar may begin at a character. -/
def mayBePlain (inFlow : Bool) (p : Placed) (r : List Placed) : Bool :=
  !(isGap p.char || isBreak p.char || isMark p.char)
    || (p.char == '-' && !headIs isGap r)
    || (!inFlow && (p.char == '?' || p.char == ':') && !atEdge r)

/-- A token that is told by its first character alone. -/
def takeMark (s : Scan) (p : Placed) (r : List Placed) : Option Scan :=
  let quotedToken := fun (read : Option (List Char × List Placed)) =>
    read.map fun (cs, rest) => (Token.scalar (.ofList cs) false, rest)
  match p.char with
  | '[' => s.openFlow p .flowSequence r
  | '{' => s.openFlow p .flowMapping r
  | ']' => s.closeFlow .flowSequenceEnd r
  | '}' => s.closeFlow .flowMappingEnd r
  | ',' => s.dropKey.map fun s => { s.push .comma r with mayBeKey := true }
  | '*' => s.takeWord p ((takeName r).map fun (name, r) => (.alias name, r))
  | '&' => s.takeWord p ((takeName r).map fun (name, r) => (.anchor name, r))
  | '!' => s.takeWord p ((Tag.take s.inFlow (p :: r)).map fun (tag, r) => (.tag tag, r))
  | '\'' => s.takeWord p (quotedToken (singleQuoted {} r))
  | '"' => s.takeWord p (quotedToken (doubleQuoted {} r))
  | _ => none

/-- Takes the token at the head. -/
def take (s : Scan) (p : Placed) (r : List Placed) : Option Scan :=
  let isOpen := s.inFlow || atEdge r
  if p.char = '%' ∧ p.column = 0 then do
    let (d, rest) ← Directive.take r
    s.outside (.directive d) rest
  else if atMarker (p :: r) then
    s.outside (if p.char = '-' then .documentStart else .documentEnd) (r.drop 2)
  else if p.char = '-' ∧ atEdge r then
    (s.openItem p .blockSequence .dash r).map ({ · with mayBeKey := true })
  else if p.char = '?' ∧ isOpen then
    (s.openItem p .blockMapping .question r).map fun s => { s with mayBeKey := !s.inFlow }
  else if p.char = ':' ∧ isOpen then s.takeColon p r
  else if (p.char = '|' ∨ p.char = '>') ∧ !s.inFlow then s.takeBlock (p.char == '|') r
  else if mayBePlain s.inFlow p r then s.takePlain p r
  else s.takeMark p r

/-- All tokens from here on. Every token takes at least one character;
one that took none would be refused. -/
def run (s : Scan) : Option (List Token) := do
  let next ← s.settle
  match next.rest with
  | [] => return next.tokens.reverse
  | p :: r =>
    let next ← next.take p r
    if next.rest.length < s.rest.length then next.run else none
termination_by s.rest.length

end Scan

/-- The tokens of a text. -/
def tokens? (ps : List Placed) : Option (List Token) := Scan.run { rest := ps }

end BucketAcl.Yaml
