/-
Visible ASCII characters. Digests, dates and numbers are written with
nothing else, so that trimming takes nothing off a text that begins and
ends with one of them.
-/
import BucketAcl.Proofs.Text.Normal
import BucketAcl.Text.Hex
import BucketAcl.Time.Civil

namespace BucketAcl.Text

/-- A character from `!` to `~`. -/
def IsVisible (c : Char) : Prop := '!'.toNat ≤ c.toNat ∧ c.toNat ≤ '~'.toNat

instance (c : Char) : Decidable (IsVisible c) := inferInstanceAs (Decidable (_ ∧ _))

-- ============================================================ classes

/-- No visible character is white space. -/
theorem IsVisible.isBlank {c : Char} (h : IsVisible c) : isBlank c = false := by
  have hlo : 33 ≤ c.toNat := h.1
  have hhi : c.toNat ≤ 126 := h.2
  have hle (d : Char) : d ≤ c ↔ d.toNat ≤ c.toNat := UInt32.le_iff_toNat_le
  have hge (d : Char) : c ≤ d ↔ c.toNat ≤ d.toNat := UInt32.le_iff_toNat_le
  have hne {d : Char} (hd : d.toNat < 33 ∨ 126 < d.toNat) : c ≠ d := by
    rintro rfl
    omega
  simp only [Text.isBlank, hle, hge, Bool.or_eq_false_iff, Bool.and_eq_false_iff,
    decide_eq_false_iff_not, beq_eq_false_iff_ne]
  refine ⟨⟨⟨⟨⟨⟨⟨⟨⟨⟨.inr ?_, ?_⟩, ?_⟩, ?_⟩, ?_⟩, .inl ?_⟩, ?_⟩, ?_⟩, ?_⟩, ?_⟩, ?_⟩
  · show ¬ c.toNat ≤ 13
    omega
  all_goals first
    | exact hne (by decide)
    | (show ¬ 8192 ≤ c.toNat; omega)

theorem isVisible_of_isDigit {c : Char} (h : c.isDigit = true) : IsVisible c := by
  have := Char.isDigit_iff_toNat.1 h
  exact ⟨Nat.le_trans (by decide) this.1, Nat.le_trans this.2 (by decide)⟩

/-- What is found of each character of a text holds of any of them. -/
theorem forall_of_all {p : Char → Prop} [DecidablePred p] {cs : List Char}
    (h : cs.all (fun c => decide (p c)) = true) : ∀ c ∈ cs, p c :=
  fun c hc => of_decide_eq_true (List.all_eq_true.1 h c hc)

/-- A digit of hexadecimal text is one of sixteen. -/
theorem hexDigit_mem (n : Nat) : Hex.digit n ∈ "0123456789abcdef".toList := by
  unfold Hex.digit
  cases hd : ("0123456789abcdef".toList)[n]? with
  | none => decide
  | some c => exact List.mem_of_getElem? hd

theorem mem_digits_of_mem_hex {bs : List UInt8} {c : Char} (h : c ∈ (Hex.text bs).toList) :
    c ∈ "0123456789abcdef".toList := by
  simp only [Hex.text, String.toList_ofList, Hex.encode, List.mem_flatMap] at h
  obtain ⟨b, -, hc⟩ := h
  rcases List.mem_cons.1 hc with rfl | hc
  · exact hexDigit_mem _
  · rw [List.mem_singleton.1 hc]
    exact hexDigit_mem _

theorem isVisible_of_mem_digits {c : Char} (h : c ∈ "0123456789abcdef".toList) :
    IsVisible c := by
  have hall : ∀ d ∈ "0123456789abcdef".toList, IsVisible d := forall_of_all (by decide)
  exact hall c h

theorem isVisible_of_mem_hex {bs : List UInt8} {c : Char} (h : c ∈ (Hex.text bs).toList) :
    IsVisible c := isVisible_of_mem_digits (mem_digits_of_mem_hex h)

-- =========================================================== trimming

theorem dropWhile_cons_of_false {p : Char → Bool} {c : Char} (h : p c = false)
    (r : List Char) : (c :: r).dropWhile p = c :: r :=
  List.dropWhile_cons_of_neg (by simp [h])

theorem dropWhile_of_forall {p : Char → Bool} {cs : List Char} (h : ∀ c ∈ cs, p c = false) :
    cs.dropWhile p = cs := by
  cases cs with
  | nil => rfl
  | cons c r => exact dropWhile_cons_of_false (h c (List.mem_cons_self ..)) r

/-- A text that neither begins nor ends with white space loses nothing. -/
theorem trim_of_ends {a b : Char} (ha : isBlank a = false) (hb : isBlank b = false)
    (cs : List Char) : trim (a :: (cs ++ [b])) = a :: (cs ++ [b]) := by
  refine trimWhile_eq_self ?_ ?_
  · simpa using ha
  · rw [← List.cons_append, List.getLast?_concat]
    simpa using hb

/-- What stands between two texts that begin and end visibly keeps its
white space. -/
theorem trimmed_append_of_ends {s t : String}
    (hs : ∃ a cs, s.toList = a :: cs ∧ isBlank a = false)
    (ht : ∃ cs b, t.toList = cs ++ [b] ∧ isBlank b = false) (m : String) :
    trimmed (s ++ m ++ t) = s ++ m ++ t := by
  obtain ⟨a, cs, hs, ha⟩ := hs
  obtain ⟨ds, b, ht, hb⟩ := ht
  have htext : (s ++ m ++ t).toList = a :: ((cs ++ m.toList ++ ds) ++ [b]) := by
    rw [String.toList_append, String.toList_append, hs, ht]
    simp
  unfold trimmed
  rw [htext, trim_of_ends ha hb, ← htext, String.ofList_toList]

theorem trimmed_of_isVisible {s : String} (h : ∀ c ∈ s.toList, IsVisible c) :
    trimmed s = s := by
  have hblank : ∀ c ∈ s.toList, isBlank c = false := fun c hc => (h c hc).isBlank
  have htrim : trim s.toList = s.toList :=
    trimWhile_eq_self (fun c hc => hblank c (List.mem_of_mem_head? hc))
      fun c hc => hblank c (List.mem_of_mem_getLast? hc)
  unfold trimmed
  rw [htrim, String.ofList_toList]

end BucketAcl.Text

namespace BucketAcl.Time

open Text

-- ============================================================== dates

theorem isDigit_of_mem_padded {width n : Nat} {c : Char} (h : c ∈ (padded width n).toList) :
    c.isDigit = true := by
  simp only [padded, String.toList_ofList, List.mem_append, List.mem_replicate] at h
  rcases h with ⟨-, rfl⟩ | h
  · decide
  · exact Nat.isDigit_of_mem_toDigits (by decide) (by decide) h

/-- A year consists of digits, perhaps after a sign. -/
theorem mem_yearText {year : Int} {c : Char} (h : c ∈ (yearText year).toList) :
    c.isDigit = true ∨ c = '-' ∨ c = '+' := by
  unfold yearText at h
  split at h
  · exact .inl (isDigit_of_mem_padded h)
  · rw [String.toList_append, List.mem_append] at h
    rcases h with h | h
    · split at h
      · exact .inr (.inl (List.mem_singleton.1 h))
      · exact .inr (.inr (List.mem_singleton.1 h))
    · exact .inl (isDigit_of_mem_padded h)

theorem mem_basicDate {t : Instant} {c : Char} (h : c ∈ t.basicDate.toList) :
    c.isDigit = true ∨ c = '-' ∨ c = '+' := by
  simp only [Instant.basicDate, String.toList_append, List.mem_append] at h
  rcases h with (h | h) | h
  · exact mem_yearText h
  · exact .inl (isDigit_of_mem_padded h)
  · exact .inl (isDigit_of_mem_padded h)

/-- The day of an instant is what stands before the `T` of its text. -/
theorem basicText_eq (t : Instant) :
    ∃ clock, t.basicText.toList = t.basicDate.toList ++ 'T' :: clock
      ∧ ∀ c ∈ clock, c.isDigit = true ∨ c = 'Z' := by
  refine ⟨(padded 2 t.clock.1).toList ++ (padded 2 t.clock.2.1).toList
    ++ (padded 2 t.clock.2.2).toList ++ ['Z'], ?_, ?_⟩
  · simp [Instant.basicText]
  · intro c hc
    simp only [List.mem_append, List.mem_singleton] at hc
    rcases hc with ((hc | hc) | hc) | hc
    · exact .inl (isDigit_of_mem_padded hc)
    · exact .inl (isDigit_of_mem_padded hc)
    · exact .inl (isDigit_of_mem_padded hc)
    · exact .inr hc

theorem cutAt_basicText (t : Instant) :
    (cutAt 'T' t.basicText.toList).map Prod.fst = some t.basicDate.toList := by
  obtain ⟨clock, htext, -⟩ := basicText_eq t
  have hno : 'T' ∉ t.basicDate.toList := by
    intro h
    rcases mem_basicDate h with h | h | h
    · exact absurd h (by decide)
    · exact absurd h (by decide)
    · exact absurd h (by decide)
  rw [htext, cutAt_append hno]
  rfl

theorem isVisible_of_mem_basicText {t : Instant} {c : Char} (h : c ∈ t.basicText.toList) :
    IsVisible c := by
  obtain ⟨clock, htext, hclock⟩ := basicText_eq t
  rw [htext, List.mem_append, List.mem_cons] at h
  rcases h with h | rfl | h
  · rcases mem_basicDate h with h | rfl | rfl
    · exact isVisible_of_isDigit h
    · decide
    · decide
  · decide
  · rcases hclock c h with h | rfl
    · exact isVisible_of_isDigit h
    · decide

end BucketAcl.Time
