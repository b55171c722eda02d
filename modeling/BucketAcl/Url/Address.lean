/-
Addresses in the place of a host name: four bytes in decimal, octal or
hexadecimal, with the last number standing for all bytes that are left,
and eight pieces of sixteen bits in brackets.
-/
import BucketAcl.Text.Blank
import BucketAcl.Text.Hex

namespace BucketAcl.Url.Address

open Text

/-- The value of digits in a base; `none` where one is no digit. -/
def digits? (base : Nat) (cs : List Char) : Option Nat :=
  cs.foldlM (fun n c => do
    let d ← Hex.value? c
    if d < base then some (base * n + d) else none) 0

-- =============================================== four bytes, 32 bits

/-- The value of one part of a dotted address: hexadecimal after `0x`,
octal after another leading zero, else decimal. -/
def part? : List Char → Option Nat
  | [] => none
  | '0' :: 'x' :: r => digits? 16 r
  | '0' :: 'X' :: r => digits? 16 r
  | ['0'] => some 0
  | '0' :: r => digits? 8 r
  | cs => digits? 10 cs

/-- The parts between dots, without an empty one at the end. -/
def dotted (cs : List Char) : List (List Char) :=
  let parts := cs.splitOn '.'
  if parts.getLast? = some [] then parts.dropLast else parts

/-- The host is to be read as a dotted address: its last part is a
number. -/
def endsInNumber (cs : List Char) : Bool :=
  match (dotted cs).getLast? with
  | some last => (last ≠ [] && last.all Char.isDigit) || (part? last).isSome
  | none => false

/-- The value of numbers of which all but the last are bytes. -/
def join? (numbers : List Nat) : Option Nat :=
  let bytes := numbers.dropLast
  match numbers.getLast? with
  | none => none
  | some last =>
    if numbers.length ≤ 4 ∧ bytes.all (· < 256) ∧ last < Nat.pow 256 (4 - bytes.length) then
      some (bytes.zipIdx.foldl (fun n (b, i) => n + b * Nat.pow 256 (3 - i)) last)
    else none

/-- The address of a dotted text. -/
def parseIpv4? (cs : List Char) : Option Nat := (dotted cs).mapM part? >>= join?

/-- An address as four decimal bytes. -/
def textIpv4 (address : Nat) : String :=
  ".".intercalate
    ([address / 0x1000000, address / 0x10000 % 256, address / 256 % 256, address % 256].map toString)

-- ============================================== eight pieces, 128 bits

/-- A piece of one to four hexadecimal digits. -/
def piece? (cs : List Char) : Option Nat :=
  if 1 ≤ cs.length ∧ cs.length ≤ 4 then digits? 16 cs else none

/-- The two pieces of four decimal bytes, which may not have leading
zeros. -/
def dottedPieces? (cs : List Char) : Option (List Nat) := do
  let parts := cs.splitOn '.'
  guard (parts.length = 4)
  let bytes ← parts.mapM fun p => do
    guard (p ≠ [] ∧ p.all Char.isDigit ∧ (p.head? = some '0' → p.length = 1))
    let n ← digits? 10 p
    guard (n < 256)
    some n
  match bytes with
  | [a, b, c, d] => some [256 * a + b, 256 * c + d]
  | _ => none

/-- The pieces of parts that stood between colons; the last part may be
four decimal bytes. -/
def partPieces? : List (List Char) → Option (List Nat)
  | [] => some []
  | [last] => dottedPieces? last <|> (piece? last).map fun n => [n]
  | part :: r => do
    let n ← piece? part
    return n :: (← partPieces? r)

/-- The pieces of a text, which may be empty. -/
def pieces? (cs : List Char) : Option (List Nat) :=
  if cs = [] then some [] else partPieces? (cs.splitOn ':')

/-- The eight pieces of an address; one `::` stands for the zeros that
are missing, and for at least one. -/
def parseIpv6? (cs : List Char) : Option (List Nat) := do
  match cutAtLiteral [':', ':'] cs with
  | none => do
    let ps ← pieces? cs
    guard (ps.length = 8)
    some ps
  | some (before, after) => do
    guard ('.' ∉ before)
    let a ← pieces? before
    let b ← pieces? after
    guard (a.length + b.length ≤ 7)
    some (a ++ List.replicate (8 - a.length - b.length) 0 ++ b)

/-- The length of the run of zeros at the head. -/
def zeroRun (ps : List Nat) : Nat := (ps.takeWhile (· == 0)).length

/-- The place and length of the first longest run of zeros. -/
def longestZeroRun (ps : List Nat) : Nat × Nat :=
  (List.range ps.length).foldl
    (fun (best : Nat × Nat) i =>
      let n := zeroRun (ps.drop i)
      if best.2 < n then (i, n) else best) (0, 0)

/-- A number in lower-case hexadecimal without leading zeros. -/
def hexNumber (n : Nat) : String := .ofList (Nat.toDigits 16 n)

/-- An address in its shortest form, in brackets: the first longest run
of at least two zeros is written as `::`. -/
def textIpv6 (ps : List Nat) : String :=
  let join (qs : List Nat) : String := ":".intercalate (qs.map hexNumber)
  let (start, n) := longestZeroRun ps
  let body := if n < 2 then join ps else join (ps.take start) ++ "::" ++ join (ps.drop (start + n))
  "[" ++ body ++ "]"

end BucketAcl.Url.Address
