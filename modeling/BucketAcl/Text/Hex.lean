/-
Hexadecimal text of bytes: two digits for each byte, high half first.
-/
namespace BucketAcl.Text.Hex

/-- The lower-case digit of a value below sixteen. -/
def digit (n : Nat) : Char := ("0123456789abcdef".toList)[n]?.getD 'f'

/-- The upper-case digit of a value below sixteen. -/
def upperDigit (n : Nat) : Char := ("0123456789ABCDEF".toList)[n]?.getD 'F'

/-- The value of a digit of either case. -/
def value? (c : Char) : Option Nat :=
  if '0' ≤ c ∧ c ≤ '9' then some (c.toNat - '0'.toNat)
  else if 'a' ≤ c ∧ c ≤ 'f' then some (c.toNat - 'a'.toNat + 10)
  else if 'A' ≤ c ∧ c ≤ 'F' then some (c.toNat - 'A'.toNat + 10)
  else none

/-- Two lower-case digits for each byte. -/
def encode (bs : List UInt8) : List Char :=
  bs.flatMap fun b => [digit (b.toNat / 16), digit (b.toNat % 16)]

/-- The text of two lower-case digits for each byte. -/
def text (bs : List UInt8) : String := .ofList (encode bs)

theorem length_encode (bs : List UInt8) : (encode bs).length = 2 * bs.length := by
  induction bs with
  | nil => rfl
  | cons b r ih =>
    simp only [encode, List.flatMap_cons, List.length_append, List.length_cons] at ih ⊢
    simp only [List.length_nil]
    omega

end BucketAcl.Text.Hex
