/-
Punycode: a label of any characters, written with letters, digits and
hyphens. The ASCII characters stand first, as they are. The others are
inserted in the order of their code points, and of their places where
those agree; each is written as its distance from the insertion before
it, counted in places of one round through the label per code point.

A distance is a number of base 36 whose digits have thresholds: a digit
below its threshold is the last. The thresholds follow a bias, which is
adapted to the distances as they come.
-/
import BucketAcl.Text.Blank
import BucketAcl.Text.Hex

namespace BucketAcl.Url.Punycode

-- ============================================================ digits

/-- The digit of a value below 36. -/
def digit (d : Nat) : Char := if d < 26 then .ofNat (0x61 + d) else .ofNat (0x30 + (d - 26))

/-- The value of a digit, in lower case. -/
def value? (c : Char) : Option Nat :=
  if 'a' ≤ c ∧ c ≤ 'z' then some (c.toNat - 0x61)
  else if '0' ≤ c ∧ c ≤ '9' then some (c.toNat - 0x30 + 26)
  else none

theorem value?_digit {d : Nat} (h : d < 36) : value? (digit d) = some d := by
  have all : ∀ e ∈ List.range 36, value? (digit e) = some e := by decide
  exact all d (List.mem_range.2 h)

/-- The threshold of the digit in a place, with places counted in steps
of 36: between 1 and 26. -/
def threshold (place bias : Nat) : Nat :=
  if place ≤ bias then 1 else min 26 (place - bias)

theorem threshold_pos (place bias : Nat) : 0 < threshold place bias := by
  unfold threshold
  split <;> omega

/-- The bias that a distance shrunk to at most 455 gives. -/
def shrink (distance places : Nat) : Nat :=
  if 455 < distance then shrink (distance / 35) (places + 36)
  else places + 36 * distance / (distance + 38)
termination_by distance
decreasing_by exact Nat.div_lt_self (by omega) (by omega)

/-- The bias after a distance, with so many characters in the label. -/
def adapt (distance size : Nat) (isFirst : Bool) : Nat :=
  let damped := if isFirst then distance / 700 else distance / 2
  shrink (damped + damped / size) 0

/-- The digits of a distance, from a place on. -/
def digits (bias : Nat) (place distance : Nat) : List Char :=
  let t := threshold place bias
  if distance < t then [digit distance]
  else digit (t + (distance - t) % (36 - t)) ::
    digits bias (place + 36) ((distance - t) / (36 - t))
termination_by distance
decreasing_by
  have pos := threshold_pos place bias
  have le := Nat.div_le_self (distance - threshold place bias) (36 - threshold place bias)
  omega

/-- The distance whose digits come first, with the weight of the next
digit and the part read so far; and the rest, which is shorter. -/
def readDistance (bias : Nat) : (place weight sum : Nat) → List Char → Option (Nat × List Char)
  | _, _, _, [] => none
  | place, weight, sum, c :: r =>
    match value? c with
    | none => none
    | some d =>
      let t := threshold place bias
      if d < t then some (sum + d * weight, r)
      else readDistance bias (place + 36) (weight * (36 - t)) (sum + d * weight) r

theorem readDistance_length {bias place weight sum distance : Nat} {cs r : List Char}
    (h : readDistance bias place weight sum cs = some (distance, r)) : r.length < cs.length := by
  fun_induction readDistance bias place weight sum cs <;> simp_all
  omega

-- ======================================================== insertions

/-- Where the next insertion is counted from: a code point and a place
in the label, which has some characters already; and the bias. -/
structure Cursor where
  point : Nat
  place : Nat
  size : Nat
  bias : Nat
  isFirst : Bool

namespace Cursor

/-- The cursor before all insertions into a label of ASCII characters. -/
def start (size : Nat) : Cursor := ⟨0x80, 0, size, 72, true⟩

/-- The distance to a place and a code point. -/
def distance (k : Cursor) (point place : Nat) : Nat :=
  (point - k.point) * (k.size + 1) + place - k.place

/-- The code point and the place at a distance. -/
def locate (k : Cursor) (distance : Nat) : Nat × Nat :=
  let n := k.place + distance
  (k.point + n / (k.size + 1), n % (k.size + 1))

/-- The cursor after an insertion. -/
def after (k : Cursor) (distance point place : Nat) : Cursor :=
  ⟨point, place + 1, k.size + 1, adapt distance (k.size + 1) k.isFirst, false⟩

end Cursor

/-- A character of ASCII. -/
def isBasic (c : Char) : Bool := c < '\x80'

/-- The characters to insert, in their order, each with the number of
characters before it at that time. -/
def insertions (label : List Char) : List (Char × Nat) :=
  let extra := label.zipIdx.filter fun (c, _) => !isBasic c
  (extra.mergeSort fun a b => a.1 < b.1 || (a.1 == b.1 && a.2 ≤ b.2)).map fun (c, i) =>
    (c, (label.take i).countP (· ≤ c))

/-- The digits of insertions. -/
def encodeInsertions : Cursor → List (Char × Nat) → List Char
  | _, [] => []
  | k, (c, place) :: r =>
    let distance := k.distance c.toNat place
    digits k.bias 36 distance ++ encodeInsertions (k.after distance c.toNat place) r

/-- The written form of a label. -/
def encode (label : List Char) : List Char :=
  let basic := label.filter isBasic
  (if basic = [] then [] else basic ++ ['-'])
    ++ encodeInsertions (.start basic.length) (insertions label)

/-- The label after the insertions that digits stand for. -/
def decodeInsertions (k : Cursor) (label : List Char) (cs : List Char) : Option (List Char) :=
  match cs with
  | [] => some label
  | c :: r =>
    match h : readDistance k.bias 36 1 0 (c :: r) with
    | none => none
    | some (distance, rest) =>
      have := readDistance_length h
      let (point, place) := k.locate distance
      if point.isValidChar then
        decodeInsertions (k.after distance point place) (label.insertIdx place (.ofNat point)) rest
      else none
termination_by cs.length
decreasing_by exact this

/-- The label of a written form. A hyphen with nothing before it sets
nothing off. -/
def decode? (cs : List Char) : Option (List Char) :=
  match Text.cutAtLast '-' cs with
  | none => decodeInsertions (.start 0) [] cs
  | some (basic, rest) =>
    if basic = [] ∨ !basic.all isBasic then none
    else decodeInsertions (.start basic.length) basic rest

end BucketAcl.Url.Punycode
