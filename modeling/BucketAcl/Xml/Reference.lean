/-
References: `&#65;` and `&#x41;` stand for a character by its number,
and five names stand for the characters that markup is made of. Texts
are written with such names in place of those characters.
-/
import BucketAcl.Text.Blank
import BucketAcl.Text.Hex
import BucketAcl.Xml.Fault

namespace BucketAcl.Xml

open Text

-- =========================================================== reading

/-- The number of digits in a base, below 2^32; the leftmost digit that
goes wrong decides. -/
def parseNumber (base : Nat) (cs : List Char) : Except CharRefFault Nat :=
  match cs with
  | [] => .error .noDigits
  | '+' :: _ => .error .sign
  | '-' :: _ => .error .sign
  | _ =>
    cs.foldlM (fun n c =>
      match Hex.value? c with
      | none => .error .badDigit
      | some d =>
        if base ≤ d then .error .badDigit
        else if 0x100000000 ≤ base * n + d then .error .tooLarge
        else .ok (base * n + d)) 0

/-- The character of a number as written after `#`. -/
def parseCharRef (cs : List Char) : Except CharRefFault Char := do
  let n ←
    match cs with
    | 'x' :: r => parseNumber 16 r
    | _ => parseNumber 10 cs
  if n = 0 then .error .null
  else if h : n.isValidChar then .ok (.ofNatAux n h)
  else .error (.notScalar n)

/-- The character of a name. -/
def entity? (name : List Char) : Option Char :=
  match String.ofList name with
  | "lt" => some '<'
  | "gt" => some '>'
  | "amp" => some '&'
  | "apos" => some '\''
  | "quot" => some '"'
  | _ => none

/-- The character of what stands between `&` and `;`. The offsets are
where faults say that the name is. -/
def resolve (start stop : Nat) (name : List Char) : Except Fault Char :=
  match name with
  | '#' :: r =>
    match parseCharRef r with
    | .ok c => .ok c
    | .error f => .error (.characterReference f)
  | _ =>
    match entity? name with
    | some c => .ok c
    | none => .error (.unknownEntity start stop (.ofList name))

/-- The length of the UTF-8 form of a text. -/
def byteLength (cs : List Char) : Nat := cs.foldr (fun c n => c.utf8Size + n) 0

/-- A text with its references resolved. `total` is the length of the
whole in bytes and `offset` that of what is read already. -/
def unescapeFrom (total : Nat) : Nat → Nat → List Char → Except Fault (List Char)
  | _, _, [] => .ok []
  | skip + 1, offset, c :: r => unescapeFrom total skip (offset + c.utf8Size) r
  | 0, offset, c :: r =>
    if c = '&' then
      match cutAt ';' r with
      | some (name, _) =>
        if '&' ∈ name then .error (.unterminatedEntity offset total)
        else do
          let x ← resolve (offset + 1) (offset + 1 + byteLength name) name
          let rest ← unescapeFrom total (name.length + 1) (offset + 1) r
          return x :: rest
      | none => .error (.unterminatedEntity offset total)
    else do
      let rest ← unescapeFrom total 0 (offset + c.utf8Size) r
      return c :: rest

/-- An attribute value with its references resolved. -/
def unescape (cs : List Char) : Except Fault (List Char) :=
  unescapeFrom (byteLength cs) 0 0 cs

-- =========================================================== writing

/-- The name that a character of a text is written by, if it may not
stand there itself. -/
def entityName? : Char → Option (List Char)
  | '<' => some ['l', 't']
  | '>' => some ['g', 't']
  | '&' => some ['a', 'm', 'p']
  | _ => none

/-- A reference to a name. -/
def writeReference (name : List Char) : List Char := '&' :: name ++ [';']

/-- A character of an attribute value in its written form. -/
def escapeInValueChar (c : Char) : List Char :=
  if c = '"' then writeReference ['q', 'u', 'o', 't']
  else (entityName? c).elim [c] writeReference

/-- An attribute value in its written form. -/
def escapeInValue (cs : List Char) : List Char := cs.flatMap escapeInValueChar

end BucketAcl.Xml
