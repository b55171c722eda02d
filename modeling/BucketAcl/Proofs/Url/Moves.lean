/-
What an appended text does to a place in a path. It is left out, or it
makes one of three moves, and the characters that a URL keeps of it
decide which: a written text has its full stops exactly where they
stood, so that no escape makes a dot segment.

Main statement: `push_eq`.
-/
import BucketAcl.Proofs.Url.Segments

namespace BucketAcl.Url.Segments

open Percent Text

-- ======================================================= written dots

variable {special : Bool}

theorem keepInSegment_percent (special : Bool) : keepInSegment special '%' = false := by
  cases special <;> decide

/-- Only a full stop has the byte of one in front. -/
theorem eq_dot_of_utf8EncodeChar {c : Char} {bs : List UInt8}
    (h : String.utf8EncodeChar c = 0x2e :: bs) : c = '.' := by
  have hdot : String.utf8EncodeChar '.' = [0x2e] := by decide
  have hc := Utf8.scalar?_encodeChar_append c []
  rw [List.append_nil, h] at hc
  have hd := Utf8.scalar?_encodeChar_append '.' bs
  rw [hdot, List.singleton_append, hc] at hd
  exact Option.some.inj hd

/-- An escape of another byte does not stand for a full stop. -/
theorem plainDots_escape {b : UInt8} (hb : b ≠ 0x2e) (r : List Char) :
    ∃ t, plainDots (escape b ++ r) = '%' :: t := by
  have hdigits : ¬(Hex.upperDigit (b.toNat / 16) = '2'
      ∧ (Hex.upperDigit (b.toNat % 16) = 'e' ∨ Hex.upperDigit (b.toNat % 16) = 'E')) := by
    rintro ⟨hhigh, hlow⟩
    have hbound : b.toNat < 256 := b.toNat_lt
    have h16 : b.toNat / 16 = 2 := by
      have := value?_upperDigit (n := b.toNat / 16) (by omega)
      rw [hhigh] at this
      exact (Option.some.inj this).symm
    have h14 : b.toNat % 16 = 14 := by
      have := value?_upperDigit (n := b.toNat % 16) (by omega)
      rcases hlow with hlow | hlow
      · rw [hlow] at this
        exact (Option.some.inj this).symm
      · rw [hlow] at this
        exact (Option.some.inj this).symm
    apply hb
    apply UInt8.toNat_inj.1
    show b.toNat = 46
    omega
  show ∃ t, plainDots ('%' :: Hex.upperDigit (b.toNat / 16) :: Hex.upperDigit (b.toNat % 16) :: r)
    = '%' :: t
  generalize Hex.upperDigit (b.toNat / 16) = high at hdigits
  generalize Hex.upperDigit (b.toNat % 16) = low at hdigits
  unfold plainDots
  split
  · rename_i heq
    cases heq
    exact absurd ⟨rfl, .inl rfl⟩ hdigits
  · rename_i heq
    cases heq
    exact absurd ⟨rfl, .inr rfl⟩ hdigits
  · rename_i heq
    cases heq
    exact ⟨_, rfl⟩
  · rename_i heq
    cases heq

/-- A character that is no full stop does not begin with one, however it
is written. -/
theorem plainDots_encodeChar {c : Char} (hc : c ≠ '.') (r : List Char) :
    ∃ d t, plainDots (encodeChar (keepInSegment special) c ++ r) = d :: t ∧ d ≠ '.' := by
  unfold encodeChar
  split
  · rename_i hk
    have hne : c ≠ '%' := by
      rintro rfl
      rw [keepInSegment_percent] at hk
      cases hk
    refine ⟨c, plainDots r, ?_, hc⟩
    show plainDots (c :: r) = _
    rw [plainDots]
    · exact fun _ h _ => hne h
    · exact fun _ h _ => hne h
  · cases hb : String.utf8EncodeChar c with
    | nil =>
        have := String.length_utf8EncodeChar c
        have hpos := c.utf8Size_pos
        rw [hb, List.length_nil] at this
        omega
    | cons b bs =>
        have hdot : b ≠ 0x2e := by
          rintro rfl
          exact hc (eq_dot_of_utf8EncodeChar hb)
        rw [List.flatMap_cons, List.append_assoc]
        obtain ⟨t, ht⟩ := plainDots_escape hdot (bs.flatMap escape ++ r)
        exact ⟨'%', t, ht, by decide⟩

/-- Full stops are found in a written text exactly where they stood. -/
theorem plainDots_encode_eq_iff {cs : List Char} (n : Nat) :
    plainDots (encode (keepInSegment special) cs) = List.replicate n '.'
      ↔ cs = List.replicate n '.' := by
  induction cs generalizing n with
  | nil =>
      show [] = List.replicate n '.' ↔ _
      exact Iff.rfl
  | cons c r ih =>
      show plainDots (encodeChar _ c ++ encode (keepInSegment special) r) = _ ↔ _
      by_cases hc : c = '.'
      · have hkeep : keepInSegment special '.' = true := by cases special <;> decide
        subst hc
        unfold encodeChar
        rw [if_pos hkeep]
        show '.' :: plainDots (encode _ r) = _ ↔ _
        cases n with
        | zero => simp
        | succ n => simp [List.replicate_succ, ih n]
      · obtain ⟨d, t, ht, hd⟩ := plainDots_encodeChar hc (encode (keepInSegment special) r)
        rw [ht]
        cases n with
        | zero => simp
        | succ n => simp [List.replicate_succ, hd, hc]

theorem isAbove_encode_iff {cs : List Char} :
    isAbove (encode (keepInSegment special) cs) = true ↔ cs = ['.', '.'] := by
  unfold isAbove
  rw [beq_iff_eq]
  exact plainDots_encode_eq_iff 2

theorem isHere_encode_iff {cs : List Char} :
    isHere (encode (keepInSegment special) cs) = true ↔ cs = ['.'] := by
  unfold isHere
  rw [beq_iff_eq]
  exact plainDots_encode_eq_iff 1

-- =============================================================== moves

/-- What a text does that is appended and not left out: it moves the
place up, it adds a blank segment, or it adds its name. -/
inductive Move where
  | up
  | blank
  | name (text : List Char) (h : text ≠ [])
  deriving DecidableEq

/-- The move of a text, if it is not left out. Tabs and line ends do not
count, except that with them a text is never left out. -/
def move? (segment : String) : Option Move :=
  if segment = "." ∨ segment = ".." then none
  else if kept segment.toList = ['.', '.'] then some .up
  else if kept segment.toList = ['.'] then some .blank
  else if h : kept segment.toList = [] then some .blank
  else some (.name (kept segment.toList) h)

/-- A name as it is written in a path. -/
def written (special : Bool) (text : List Char) : String :=
  .ofList (encode (keepInSegment special) text)

/-- The segments after a move. -/
def Move.go (special : Bool) (ss : List String) : Move → List String
  | up => above ss ++ [""]
  | blank => ss ++ [""]
  | name text _ => ss ++ [written special text]

/-- The segments after a walk, which goes on below a root path. -/
def walk (special : Bool) (ss : List String) (ms : List Move) : List String :=
  ms.foldl (fun ss m => m.go special (forAppending ss)) ss

theorem push_eq (ss : List String) (segment : String) :
    push special ss segment
      = (move? segment).elim ss fun m => m.go special (forAppending ss) := by
  unfold push move?
  by_cases hd : segment = "." ∨ segment = ".."
  · rw [if_pos hd, if_pos hd]
    rfl
  rw [if_neg hd, if_neg hd]
  by_cases ha : kept segment.toList = ['.', '.']
  · rw [if_pos (isAbove_encode_iff.2 ha), if_pos ha]
    rfl
  rw [if_neg (mt isAbove_encode_iff.1 ha), if_neg ha]
  by_cases hh : kept segment.toList = ['.']
  · rw [if_pos (isHere_encode_iff.2 hh), if_pos hh]
    rfl
  rw [if_neg (mt isHere_encode_iff.1 hh), if_neg hh]
  by_cases hn : kept segment.toList = []
  · rw [dif_pos hn, hn]
    rfl
  · rw [dif_neg hn]
    rfl

/-- Texts that are appended one after the other are a walk. -/
theorem foldl_push_eq (ss : List String) (ks : List String) :
    ks.foldl (push special) ss = walk special ss (ks.filterMap move?) := by
  unfold walk
  induction ks generalizing ss with
  | nil => rfl
  | cons k r ih =>
      rw [List.foldl_cons, push_eq, ih]
      cases hk : move? k with
      | none =>
          rw [List.filterMap_cons_none hk]
          rfl
      | some m =>
          rw [List.filterMap_cons_some hk, List.foldl_cons]
          rfl

theorem written_ne_empty {text : List Char} (h : text ≠ []) : written special text ≠ "" := by
  intro he
  unfold written at he
  rw [← String.ofList_nil, String.ofList_inj] at he
  exact h ((encode_eq_nil_iff (keepInSegment_percent special)).1 he)

theorem written_injective {a b : List Char} (h : written special a = written special b) :
    a = b := by
  unfold written at h
  rw [String.ofList_inj] at h
  exact encode_injective (keepInSegment_percent special) h

/-- A letter is kept in a segment. -/
theorem keepInSegment_of_isAlpha {c : Char} (h : c.isAlpha = true) :
    keepInSegment special c = true := by
  have hprintable : isPrintable c = true := by
    have hletter : (decide (c.val ≥ 'A'.val ∧ c.val ≤ 'Z'.val)
      || decide (c.val ≥ 'a'.val) && decide (c.val ≤ 'z'.val)) = true := h
    unfold isPrintable
    simp only [Bool.or_eq_true, Bool.and_eq_true, decide_eq_true_eq] at hletter
    simp only [Bool.and_eq_true, decide_eq_true_eq]
    constructor
    · show (32 : UInt32) ≤ c.val
      grind
    · show c.val ≤ (126 : UInt32)
      grind
  have hnot (d : Char) (hd : d.isAlpha = false) : c ≠ d := by
    rintro rfl
    rw [h] at hd
    cases hd
  have hmarks : (" \"#<>?`\x7b\x7d".toList.contains c) = false := by
    have hall : ∀ d ∈ " \"#<>?`\x7b\x7d".toList, (!d.isAlpha) = true :=
      List.all_eq_true.1 (by decide)
    rw [List.contains_eq_mem, decide_eq_false_iff_not]
    exact fun hc => hnot c (Bool.not_eq_eq_eq_not.1 (hall c hc)) rfl
  unfold keepInSegment keepInPath
  rw [hprintable, hmarks]
  simp [hnot '/' (by decide), hnot '%' (by decide), hnot '\\' (by decide)]

/-- A drive is written as it stands. -/
theorem written_drive {text : List Char} (h : isDrive text = true) :
    (written special text).toList = text := by
  unfold written
  rw [String.toList_ofList]
  unfold isDrive at h
  split at h
  · rename_i c mark
    simp only [Bool.and_eq_true, Bool.or_eq_true, beq_iff_eq] at h
    have hc : keepInSegment special c = true := keepInSegment_of_isAlpha h.1
    have hmark : keepInSegment special mark = true := by
      rcases h.2 with rfl | rfl
      · cases special <;> decide
      · cases special <;> decide
    simp [encode, encodeChar, hc, hmark]
  · cases h

/-- No other name is written as a drive. -/
theorem isDrive_written (text : List Char) :
    isDrive (written special text).toList = isDrive text := by
  apply Bool.eq_iff_iff.2
  constructor
  · intro h
    have hsame : written special (written special text).toList = written special text :=
      String.toList_inj.1 (written_drive h)
    rw [written_injective hsame] at h
    exact h
  · intro h
    rw [written_drive h]
    exact h

end BucketAcl.Url.Segments
