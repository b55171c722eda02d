/-
Tags and directives: the words that say how the rest is to be read. A
tag is a handle and a suffix, its handle stands for a beginning that a
directive may set, and a tag without a handle is complete.
-/
import BucketAcl.Text.Hex
import BucketAcl.Yaml.Placed

namespace BucketAcl.Yaml

open Placed

/-- A tag as it is written. The empty handle is for a tag that is
complete. -/
structure Tag where
  handle : String
  suffix : String
  deriving DecidableEq

/-- What a directive sets. -/
inductive Directive where
  | version
  | handle (name beginning : String)
  deriving DecidableEq

-- ========================================================= characters

/-- Characters of a tag. Those that are brackets or commas elsewhere may
stand only where nothing else can be meant. -/
def isTagChar (isAlone : Bool) (c : Char) : Bool :=
  isWord c || ";/?:@&=+$.%!~*'()".toList.contains c || (isAlone && ",[]".toList.contains c)

/-- How many bytes follow a byte that begins a character. -/
def followers? (b : Nat) : Option Nat :=
  if b < 0x80 then some 0
  else if b < 0xc0 then none
  else if b < 0xe0 then some 1
  else if b < 0xf0 then some 2
  else if b < 0xf8 then some 3
  else none

/-- The bytes of a tag and the rest. `wanted` bytes belong to a
character that was begun: they and all bytes beyond ASCII are written as
two digits behind a percent sign. -/
def tagBytes (isAlone : Bool) (wanted : Nat) :
    List Placed → Option (List UInt8 × List Placed)
  | [] => if wanted = 0 then some ([], []) else none
  | p :: r =>
    if p.char = '%' then
      match r with
      | h :: l :: r => do
        let value := 16 * (← Text.Hex.value? h.char) + (← Text.Hex.value? l.char)
        let next ←
          if wanted = 0 then followers? value
          else if 0x80 ≤ value ∧ value < 0xc0 then some (wanted - 1)
          else none
        let (bytes, rest) ← tagBytes isAlone next r
        return (value.toUInt8 :: bytes, rest)
      | _ => none
    else if wanted ≠ 0 then none
    else if isTagChar isAlone p.char then do
      let (bytes, rest) ← tagBytes isAlone 0 r
      return (p.char.toNat.toUInt8 :: bytes, rest)
    else some ([], p :: r)

/-- The characters of a tag and the rest; there is at least one. -/
def tagText (isAlone : Bool) (ps : List Placed) : Option (String × List Placed) := do
  let (bytes, r) ← tagBytes isAlone 0 ps
  if bytes = [] then none else return (Text.Utf8.lossy bytes, r)

/-- A handle and the rest: the mark, a word, and the mark once more if
it follows. -/
def tagHandle (ps : List Placed) : Option (List Char × List Placed) :=
  match ps with
  | [] => none
  | p :: r =>
    if p.char ≠ '!' then none
    else
      let word := chars (r.takeWhile fun c => isWord c.char)
      let r := r.drop word.length
      if headIs (· == '!') r then some ('!' :: word ++ ['!'], r.drop 1)
      else some ('!' :: word, r)

/-- Whether a handle is more than a mark and a word. -/
def isClosed (handle : List Char) : Bool := 2 ≤ handle.length && handle.getLast? == some '!'

-- =============================================================== tags

/-- A tag from its mark on, before its end is looked at. -/
def Tag.begin (ps : List Placed) : Option (Tag × List Placed) :=
  if chars (ps.take 2) = ['!', '<'] then do
    let (suffix, r) ← tagText true (ps.drop 2)
    if headIs (· == '>') r then return (⟨"", suffix⟩, r.drop 1) else none
  else do
    let (handle, r) ← tagHandle ps
    if isClosed handle then
      let (suffix, r) ← tagText false r
      return (⟨.ofList handle, suffix⟩, r)
    else
      let (bytes, r) ← tagBytes false 0 r
      let suffix := String.ofList (handle.drop 1) ++ Text.Utf8.lossy bytes
      return (if suffix = "" then ⟨"", "!"⟩ else ⟨"!", suffix⟩, r)

/-- A tag from its mark on. It ends at white space, or within brackets
at a comma. -/
def Tag.take (inFlow : Bool) (ps : List Placed) : Option (Tag × List Placed) := do
  let (tag, r) ← Tag.begin ps
  if atEdge r || (inFlow && headIs (· == ',') r) then return (tag, r) else none

/-- The beginnings that the two handles have which no directive needs to
set. -/
def knownHandles : List (String × String) :=
  [("!", "!"), ("!!", "tag:yaml.org,2002:")]

/-- The whole tag, where its handle is known. -/
def Tag.text? (handles : List (String × String)) (tag : Tag) : Option String :=
  if tag.handle = "" then some tag.suffix
  else (handles.lookup tag.handle).map (· ++ tag.suffix)

-- ========================================================= directives

/-- A number of at most nine digits and the rest. -/
def takeNumber (ps : List Placed) : Option (Nat × List Placed) :=
  let digits := chars (ps.takeWhile fun c => c.char.isDigit)
  if 1 ≤ digits.length ∧ digits.length ≤ 9 then
    some (digits.foldl (fun v d => 10 * v + (d.toNat - '0'.toNat)) 0, ps.drop digits.length)
  else none

/-- The version that a directive names, which has to be 1.1 or 1.2. -/
def takeVersion (ps : List Placed) : Option (Directive × List Placed) := do
  let (major, r) ← takeNumber ps
  if headIs (· == '.') r then
    let (minor, r) ← takeNumber (r.drop 1)
    if major = 1 ∧ (minor = 1 ∨ minor = 2) then return (.version, r) else none
  else none

/-- The handle that a directive sets. -/
def takeHandle (ps : List Placed) : Option (Directive × List Placed) := do
  let (handle, r) ← tagHandle ps
  if (handle = ['!'] ∨ isClosed handle) ∧ headIs isGap r then
    let (beginning, r) ← tagText true (dropGap r)
    if atEdge r then return (.handle (.ofList handle) beginning, r) else none
  else none

/-- A directive, from behind its mark up to the end of its line. -/
def Directive.take (ps : List Placed) : Option (Directive × List Placed) := do
  let name := String.ofList (chars (ps.takeWhile fun c => isWord c.char))
  let r := ps.drop name.length
  if atEdge r then
    let (directive, r) ←
      if name = "YAML" then takeVersion (dropGap r)
      else if name = "TAG" then takeHandle (dropGap r)
      else none
    return (directive, ← endLine? r)
  else none

end BucketAcl.Yaml
