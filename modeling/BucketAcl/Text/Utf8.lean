/-
UTF-8: the bytes of a text, and the text of any bytes.

`decode` reads bytes that need not be well formed: each scalar value
gives `some c`, and each maximal part that could have begun one but
does not go on gives one `none`. The lossy reading shows U+FFFD for
those, the strict one refuses them.
-/
namespace BucketAcl.Text.Utf8

/-- The bytes of a list of characters. -/
def encode (cs : List Char) : List UInt8 := cs.flatMap String.utf8EncodeChar

/-- The bytes of a text. -/
def bytes (s : String) : List UInt8 := encode s.toList

theorem encode_append (a b : List Char) : encode (a ++ b) = encode a ++ encode b := by
  simp [encode]

-- ========================================================== decoding

/-- The scalar value that the bytes begin with, if they do with one. -/
def scalar? (bs : List UInt8) : Option Char :=
  (bs.take 4).toByteArray.utf8DecodeChar? 0

/-- Continuation bytes. -/
def isContinuation (b : UInt8) : Bool := 0x80 ≤ b && b ≤ 0xbf

/-- Whether `b` may be the second byte after `lead`: the tighter bounds
after E0, ED, F0 and F4 keep out overlong forms, surrogates and values
above U+10FFFF. -/
def mayFollow (lead b : UInt8) : Bool :=
  if lead = 0xe0 then 0xa0 ≤ b && b ≤ 0xbf
  else if lead = 0xed then 0x80 ≤ b && b ≤ 0x9f
  else if lead = 0xf0 then 0x90 ≤ b && b ≤ 0xbf
  else if lead = 0xf4 then 0x80 ≤ b && b ≤ 0x8f
  else isContinuation b

/-- How many bytes one replacement stands for, where no scalar value
begins: the longest start of a well-formed sequence, and at least one
byte. -/
def brokenLength : List UInt8 → Nat
  | lead :: b :: c :: _ =>
    if 0xe0 ≤ lead && lead ≤ 0xf4 && mayFollow lead b then
      if 0xf0 ≤ lead && isContinuation c then 3 else 2
    else 1
  | [lead, b] => if 0xe0 ≤ lead && lead ≤ 0xf4 && mayFollow lead b then 2 else 1
  | _ => 1

theorem brokenLength_pos (bs : List UInt8) : 0 < brokenLength bs := by
  unfold brokenLength
  split
  · split
    · split <;> omega
    · omega
  · split <;> omega
  · omega

/-- The scalar values of the bytes, with `none` for each broken part. -/
def decode : List UInt8 → List (Option Char)
  | [] => []
  | b :: r =>
    match scalar? (b :: r) with
    | some c => some c :: decode ((b :: r).drop c.utf8Size)
    | none => none :: decode ((b :: r).drop (brokenLength (b :: r)))
  termination_by bs => bs.length
  decreasing_by
  · have := c.utf8Size_pos
    simp only [List.length_drop, List.length_cons]
    omega
  · have := brokenLength_pos (b :: r)
    simp only [List.length_drop, List.length_cons]
    omega

/-- The characters of the bytes, with U+FFFD for each broken part. -/
def decodeLossy (bs : List UInt8) : List Char := (decode bs).map (·.getD '\ufffd')

/-- The text of the bytes, with U+FFFD for each broken part. -/
def lossy (bs : List UInt8) : String := .ofList (decodeLossy bs)

/-- Only of no bytes nothing is shown. -/
theorem lossy_eq_empty_iff {bs : List UInt8} : lossy bs = "" ↔ bs = [] := by
  constructor
  · intro h
    cases bs with
    | nil => rfl
    | cons b r =>
        have hnil : decodeLossy (b :: r) = [] := by simpa [lossy] using h
        unfold decodeLossy at hnil
        rw [List.map_eq_nil_iff, decode] at hnil
        split at hnil
        · cases hnil
        · cases hnil
  · rintro rfl
    simp [lossy, decodeLossy, decode]

/-- The text of well-formed bytes. -/
def strict? (bs : List UInt8) : Option String := ((decode bs).mapM id).map String.ofList

-- ======================================================== round trip

private theorem take_encodeChar_append (c : Char) (r : List UInt8) :
    ∃ t, (String.utf8EncodeChar c ++ r).take 4 = String.utf8EncodeChar c ++ t := by
  refine ⟨r.take (4 - c.utf8Size), ?_⟩
  have := c.utf8Size_le_four
  rw [List.take_append, String.length_utf8EncodeChar, List.take_of_length_le]
  rw [String.length_utf8EncodeChar]
  omega

theorem scalar?_encodeChar_append (c : Char) (r : List UInt8) :
    scalar? (String.utf8EncodeChar c ++ r) = some c := by
  obtain ⟨t, ht⟩ := take_encodeChar_append c r
  rw [scalar?, ht, List.toByteArray_append]
  exact ByteArray.utf8DecodeChar?_utf8EncodeChar_append

theorem decode_encodeChar_append (c : Char) (r : List UInt8) :
    decode (String.utf8EncodeChar c ++ r) = some c :: decode r := by
  have hs := scalar?_encodeChar_append c r
  have hl := String.length_utf8EncodeChar c
  have hp := c.utf8Size_pos
  match hc : String.utf8EncodeChar c with
  | [] => rw [hc, List.length_nil] at hl; omega
  | b :: t =>
    rw [hc] at hs hl
    rw [List.cons_append] at hs ⊢
    rw [decode, hs]
    simp only
    rw [← List.cons_append, ← hl, List.drop_left]

/-- Reading back what was written gives every character. -/
theorem decode_encode (cs : List Char) : decode (encode cs) = cs.map some := by
  induction cs with
  | nil => simp [encode, decode]
  | cons c r ih =>
    rw [encode, List.flatMap_cons, decode_encodeChar_append, List.map_cons]
    exact congrArg _ ih

theorem decodeLossy_encode (cs : List Char) : decodeLossy (encode cs) = cs := by
  simp [decodeLossy, decode_encode, Function.comp_def]

theorem lossy_bytes (s : String) : lossy (bytes s) = s := by
  simp [lossy, bytes, decodeLossy_encode]

-- ============================================================= ascii

theorem toNat_ofNat_byte (b : UInt8) : (Char.ofNat b.toNat).toNat = b.toNat := by
  have hvalid : b.toNat.isValidChar := .inl (Nat.lt_trans b.toNat_lt (by decide))
  unfold Char.ofNat
  rw [dif_pos hvalid]
  rfl

/-- A character of ASCII is one byte. -/
theorem utf8EncodeChar_of_lt {c : Char} (h : c.toNat < 128) :
    String.utf8EncodeChar c = [UInt8.ofNat c.toNat] := by
  unfold String.utf8EncodeChar
  exact if_pos (Nat.le_of_lt_succ h)

/-- Bytes of ASCII are those of the text of their characters. -/
theorem bytes_of_ascii {bs : List UInt8} (h : ∀ b ∈ bs, b.toNat < 128) :
    bytes (.ofList (bs.map fun b => Char.ofNat b.toNat)) = bs := by
  unfold bytes encode
  rw [String.toList_ofList]
  induction bs with
  | nil => rfl
  | cons b r ih =>
      have hb : (Char.ofNat b.toNat).toNat < 128 := by
        rw [toNat_ofNat_byte]
        exact h b (List.mem_cons_self ..)
      rw [List.map_cons, List.flatMap_cons, utf8EncodeChar_of_lt hb, toNat_ofNat_byte,
        UInt8.ofNat_toNat, ih fun x hx => h x (List.mem_cons_of_mem _ hx)]
      rfl

end BucketAcl.Text.Utf8
