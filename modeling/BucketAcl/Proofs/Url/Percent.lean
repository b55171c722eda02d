/-
Percent encoding and its inverse. A set that keeps no percent sign is
decoded to what was encoded, whatever else it keeps; and what is
written consists of kept characters, percent signs and digits.
-/
import BucketAcl.Url.Form

namespace BucketAcl.Url.Percent

open Text

-- ============================================================ escapes

/-- The digits of an escape. -/
def escapeDigits : List Char := "0123456789ABCDEF".toList

theorem upperDigit_mem (n : Nat) : Hex.upperDigit n ∈ escapeDigits := by
  unfold Hex.upperDigit
  cases hd : ("0123456789ABCDEF".toList)[n]? with
  | none => decide
  | some c => exact List.mem_of_getElem? hd

theorem value?_upperDigit {n : Nat} (h : n < 16) : Hex.value? (Hex.upperDigit n) = some n := by
  have hall : ∀ m < 16, Hex.value? (Hex.upperDigit m) = some m := by decide
  exact hall n h

/-- An escape gives its byte. -/
theorem decode_escape_append (b : UInt8) (r : List Char) :
    decode (escape b ++ r) = b :: decode r := by
  have hb : b.toNat < 256 := b.toNat_lt
  have hbyte : byte? (Hex.upperDigit (b.toNat / 16)) (Hex.upperDigit (b.toNat % 16)) = some b := by
    unfold byte?
    rw [value?_upperDigit (by omega), value?_upperDigit (by omega)]
    simp only [Option.bind_eq_bind, Option.bind_some, Option.pure_def, Option.some.injEq]
    rw [show 16 * (b.toNat / 16) + b.toNat % 16 = b.toNat by omega]
    exact UInt8.ofNat_toNat
  show decode ('%' :: Hex.upperDigit (b.toNat / 16) :: Hex.upperDigit (b.toNat % 16) :: r) = _
  rw [decode, hbyte]

/-- A character that is no percent sign stands for itself. -/
theorem decode_cons {c : Char} (h : c ≠ '%') (r : List Char) :
    decode (c :: r) = String.utf8EncodeChar c ++ decode r := by
  rw [decode.eq_def]
  split
  · rename_i heq
    cases heq
  · rename_i heq
    cases heq
    exact absurd rfl h
  · rename_i heq
    cases heq
    rfl

theorem decode_flatMap_escape_append (bs : List UInt8) (r : List Char) :
    decode (bs.flatMap escape ++ r) = bs ++ decode r := by
  induction bs with
  | nil => rfl
  | cons b t ih =>
      rw [List.flatMap_cons, List.append_assoc, decode_escape_append, ih, List.cons_append]

-- ========================================================= round trip

variable {keep : Char → Bool}

theorem decode_encodeChar_append (h : keep '%' = false) (c : Char) (r : List Char) :
    decode (encodeChar keep c ++ r) = String.utf8EncodeChar c ++ decode r := by
  unfold encodeChar
  split
  · rename_i hk
    have hne : c ≠ '%' := by
      rintro rfl
      rw [h] at hk
      cases hk
    exact decode_cons hne r
  · exact decode_flatMap_escape_append _ r

/-- What was encoded is decoded to the bytes of the text. -/
theorem decode_encode (h : keep '%' = false) (cs : List Char) :
    decode (encode keep cs) = Utf8.encode cs := by
  induction cs with
  | nil => rfl
  | cons c r ih =>
      show decode (encodeChar keep c ++ encode keep r) = _
      rw [decode_encodeChar_append h, ih]
      rfl

theorem decodeText_encode (h : keep '%' = false) (cs : List Char) :
    decodeText (encode keep cs) = cs := by
  rw [decodeText, decode_encode h, Utf8.decodeLossy_encode]

theorem encode_injective (h : keep '%' = false) {a b : List Char}
    (heq : encode keep a = encode keep b) : a = b := by
  rw [← decodeText_encode h a, heq, decodeText_encode h]

-- ===================================================== what is written

/-- What is written is kept, or part of an escape. -/
theorem mem_encode {c : Char} {cs : List Char} (h : c ∈ encode keep cs) :
    (c ∈ cs ∧ keep c = true) ∨ c = '%' ∨ c ∈ escapeDigits := by
  obtain ⟨x, hx, hc⟩ := List.mem_flatMap.1 h
  unfold encodeChar at hc
  split at hc
  · rename_i hk
    rw [List.mem_singleton] at hc
    subst hc
    exact .inl ⟨hx, hk⟩
  · obtain ⟨b, -, hc⟩ := List.mem_flatMap.1 hc
    simp only [escape, List.mem_cons, List.not_mem_nil, or_false] at hc
    rcases hc with rfl | rfl | rfl
    · exact .inr (.inl rfl)
    · exact .inr (.inr (upperDigit_mem _))
    · exact .inr (.inr (upperDigit_mem _))

/-- A character of no escape that is not kept is not written. -/
theorem not_mem_encode {c : Char} (hk : keep c = false) (hp : c ≠ '%')
    (hd : c ∉ escapeDigits) (cs : List Char) : c ∉ encode keep cs := by
  intro h
  rcases mem_encode h with ⟨-, h⟩ | h | h
  · rw [hk] at h
    cases h
  · exact hp h
  · exact hd h

theorem encode_append (a b : List Char) :
    encode keep (a ++ b) = encode keep a ++ encode keep b := List.flatMap_append

theorem encode_eq_nil_iff (h : keep '%' = false) {cs : List Char} :
    encode keep cs = [] ↔ cs = [] := by
  constructor
  · intro he
    exact encode_injective h he
  · rintro rfl
    rfl

end BucketAcl.Url.Percent
