/-
Percent encoding. A character is kept or written as `%XX` for each byte
of its UTF-8 form; which are kept depends on the part of the URL that
the text stands in, and no set keeps a character beyond ASCII.
-/
import BucketAcl.Text.Hex
import BucketAcl.Text.Utf8

namespace BucketAcl.Url.Percent

open Text

-- ============================================================== sets

/-- A visible ASCII character or a space. -/
def isPrintable (c : Char) : Bool := ' ' ≤ c && c ≤ '~'

/-- Kept in a path whose segments are not read. -/
def keepInRootless (c : Char) : Bool := isPrintable c

/-- Kept in a fragment. -/
def keepInFragment (c : Char) : Bool :=
  isPrintable c && !(" \"<>`".toList.contains c)

/-- Kept in a query; an apostrophe only where the scheme is not one of
the special ones. -/
def keepInQuery (isSpecial : Bool) (c : Char) : Bool :=
  isPrintable c && !(" \"#<>".toList.contains c) && !(isSpecial && c == '\'')

/-- Kept in the path of a URL that is read. -/
def keepInPath (c : Char) : Bool :=
  isPrintable c && !(" \"#<>?`\x7b\x7d".toList.contains c)

/-- Kept in one segment that is appended to a path: there the separator
and the escape character are text like any other. -/
def keepInSegment (isSpecial : Bool) (c : Char) : Bool :=
  keepInPath c && c != '/' && c != '%' && !(isSpecial && c == '\\')

/-- Kept in a user name or a password. -/
def keepInUserInfo (c : Char) : Bool :=
  keepInPath c && !("/:;=@[\\]^|".toList.contains c)

/-- The unreserved characters. -/
def isUnreserved (c : Char) : Bool :=
  c.isAlphanum || c == '-' || c == '.' || c == '_' || c == '~'

/-- Kept in a form: letters, digits and four marks. -/
def keepInForm (c : Char) : Bool :=
  c.isAlphanum || c == '*' || c == '-' || c == '.' || c == '_'

-- ========================================================== encoding

/-- The escape of a byte. -/
def escape (b : UInt8) : List Char :=
  ['%', Hex.upperDigit (b.toNat / 16), Hex.upperDigit (b.toNat % 16)]

/-- A character, escaped unless it is kept. -/
def encodeChar (keep : Char → Bool) (c : Char) : List Char :=
  if keep c then [c] else (String.utf8EncodeChar c).flatMap escape

/-- A text, with every character escaped that is not kept. -/
def encode (keep : Char → Bool) (cs : List Char) : List Char := cs.flatMap (encodeChar keep)

-- ========================================================== decoding

/-- The byte of two hexadecimal digits. -/
def byte? (a b : Char) : Option UInt8 := do
  let high ← Hex.value? a
  let low ← Hex.value? b
  return (16 * high + low).toUInt8

/-- The bytes of a text: an escape gives its byte, and all else the
bytes of its UTF-8 form. A percent sign that begins no escape stands
for itself. -/
def decode : List Char → List UInt8
  | [] => []
  | '%' :: a :: b :: r =>
    match byte? a b with
    | some x => x :: decode r
    | none => 0x25 :: decode (a :: b :: r)
  | c :: r => String.utf8EncodeChar c ++ decode r

/-- The text of the bytes that an encoded text stands for. -/
def decodeText (cs : List Char) : List Char := Utf8.decodeLossy (decode cs)

end BucketAcl.Url.Percent
