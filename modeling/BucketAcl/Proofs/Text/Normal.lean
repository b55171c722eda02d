/-
The normal forms of short texts: names in lower case, and values without
white space at their ends, of which there is one for each text.
-/
import BucketAcl.Text.Blank
import Mathlib.Data.List.TakeWhile

namespace BucketAcl.Text

-- ========================================================== lower case

/-- What is no letter in upper case stays as it is. -/
theorem toLower_eq_self {c : Char} (h : ¬ (c.val ≥ 'A'.val ∧ c.val ≤ 'Z'.val)) :
    c.toLower = c := by
  unfold Char.toLower
  rw [dif_neg h]

theorem isUpper_toLower (c : Char) : c.toLower.isUpper = false := by
  unfold Char.isUpper
  rw [decide_eq_false_iff_not]
  by_cases h : c.val ≥ 'A'.val ∧ c.val ≤ 'Z'.val
  · have hlower : c.toLower.val = c.val + 32 := by
      unfold Char.toLower
      rw [dif_pos h]
      rfl
    have hlo : 65 ≤ c.val.toNat := UInt32.le_iff_toNat_le.1 h.1
    have hhi : c.val.toNat ≤ 90 := UInt32.le_iff_toNat_le.1 h.2
    rw [hlower]
    rintro ⟨-, hle⟩
    have hle' : (c.val + 32).toNat ≤ 90 := UInt32.le_iff_toNat_le.1 hle
    rw [UInt32.toNat_add, show (32 : UInt32).toNat = 32 from rfl] at hle'
    omega
  · rw [toLower_eq_self h]
    exact h

theorem toLower_toLower (c : Char) : c.toLower.toLower = c.toLower :=
  toLower_eq_self (of_decide_eq_false (isUpper_toLower c))

-- ================================================================ ends

/-- A text neither begins nor ends with white space. -/
def HasBareEnds (s : String) : Prop :=
  (∀ c ∈ s.toList.head?, isBlank c = false) ∧ ∀ c ∈ s.toList.getLast?, isBlank c = false

theorem head?_dropWhile {p : Char → Bool} {cs : List Char} :
    ∀ c ∈ (cs.dropWhile p).head?, p c = false := by
  intro c hc
  have hfirst := List.head?_dropWhile_not p cs
  rw [Option.mem_def.1 hc] at hfirst
  exact hfirst

/-- What is dropped at the end is dropped behind the first character
that stays. -/
theorem head?_trimWhile {p : Char → Bool} {cs : List Char} :
    ∀ c ∈ (trimWhile p cs).head?, p c = false := by
  unfold trimWhile dropEndWhile
  intro c hc
  obtain ⟨dropped, happend⟩ :=
    List.dropWhile_suffix (l := (cs.dropWhile p).reverse) p
  have hfront : cs.dropWhile p
      = ((cs.dropWhile p).reverse.dropWhile p).reverse ++ dropped.reverse := by
    rw [← List.reverse_append, happend, List.reverse_reverse]
  have hhead : c ∈ (cs.dropWhile p).head? := by
    rw [hfront, List.head?_append, Option.mem_def.1 hc]
    rfl
  exact head?_dropWhile c hhead

theorem getLast?_trimWhile {p : Char → Bool} {cs : List Char} :
    ∀ c ∈ (trimWhile p cs).getLast?, p c = false := by
  unfold trimWhile dropEndWhile
  rw [List.getLast?_reverse]
  exact head?_dropWhile

theorem hasBareEnds_trimmed (s : String) : HasBareEnds (trimmed s) := by
  unfold HasBareEnds trimmed
  rw [String.toList_ofList]
  exact ⟨head?_trimWhile, getLast?_trimWhile⟩

/-- The second text is what is left of the first one without the white
space at its ends. -/
structure Trims (s t : String) : Prop where
  ends : ∃ front back : String, s = front ++ t ++ back
    ∧ (∀ c ∈ front.toList, isBlank c = true) ∧ ∀ c ∈ back.toList, isBlank c = true
  bare : HasBareEnds t

theorem dropWhile_append_of_forall {p : Char → Bool} {front cs : List Char}
    (hfront : ∀ c ∈ front, p c = true) (hcs : ∀ c ∈ cs.head?, p c = false) :
    (front ++ cs).dropWhile p = cs := by
  rw [List.dropWhile_append_of_pos hfront]
  cases cs with
  | nil => rfl
  | cons c r => exact List.dropWhile_cons_of_neg (by simp [hcs c rfl])

/-- What is of the class in front and behind is dropped, and no more. -/
theorem trimWhile_append {p : Char → Bool} {front cs back : List Char}
    (hfront : ∀ c ∈ front, p c = true) (hback : ∀ c ∈ back, p c = true)
    (hhead : ∀ c ∈ cs.head?, p c = false) (hlast : ∀ c ∈ cs.getLast?, p c = false) :
    trimWhile p (front ++ cs ++ back) = cs := by
  have hbehind : ∀ c ∈ back.reverse, p c = true :=
    fun c hc => hback c (List.mem_reverse.1 hc)
  unfold trimWhile dropEndWhile
  cases cs with
  | nil =>
      have hall : ∀ c ∈ front ++ [] ++ back, p c = true := by
        intro c hc
        rw [List.append_nil] at hc
        exact (List.mem_append.1 hc).elim (hfront c) (hback c)
      rw [List.dropWhile_eq_nil_iff.2 hall]
      rfl
  | cons c r =>
      rw [List.append_assoc, dropWhile_append_of_forall hfront (by simpa using hhead),
        List.reverse_append, dropWhile_append_of_forall hbehind, List.reverse_reverse]
      rw [List.head?_reverse]
      exact hlast

/-- The characters that trimming takes off. -/
theorem exists_eq_trimWhile (p : Char → Bool) (cs : List Char) :
    ∃ front back, cs = front ++ trimWhile p cs ++ back
      ∧ (∀ c ∈ front, p c = true) ∧ ∀ c ∈ back, p c = true := by
  have hrest : trimWhile p cs ++ ((cs.dropWhile p).reverse.takeWhile p).reverse
      = cs.dropWhile p := by
    unfold trimWhile dropEndWhile
    rw [← List.reverse_append, List.takeWhile_append_dropWhile, List.reverse_reverse]
  refine ⟨cs.takeWhile p, ((cs.dropWhile p).reverse.takeWhile p).reverse, ?_,
    fun c hc => List.mem_takeWhile_imp hc, fun c hc => ?_⟩
  · rw [List.append_assoc, hrest, List.takeWhile_append_dropWhile]
  · exact List.mem_takeWhile_imp (List.mem_reverse.1 hc)

/-- Trimming leaves what it should, and nothing else is left of a text
without the characters of the class at its ends. -/
theorem trimWhile_eq_iff {p : Char → Bool} {cs ds : List Char} :
    trimWhile p cs = ds ↔ (∃ front back, cs = front ++ ds ++ back
        ∧ (∀ c ∈ front, p c = true) ∧ ∀ c ∈ back, p c = true)
      ∧ (∀ c ∈ ds.head?, p c = false) ∧ ∀ c ∈ ds.getLast?, p c = false := by
  constructor
  · rintro rfl
    exact ⟨exists_eq_trimWhile p cs, head?_trimWhile, getLast?_trimWhile⟩
  · rintro ⟨⟨front, back, rfl, hfront, hback⟩, hhead, hlast⟩
    exact trimWhile_append hfront hback hhead hlast

/-- What neither begins nor ends with the class loses nothing. -/
theorem trimWhile_eq_self {p : Char → Bool} {cs : List Char} (hhead : ∀ c ∈ cs.head?, p c = false)
    (hlast : ∀ c ∈ cs.getLast?, p c = false) : trimWhile p cs = cs :=
  trimWhile_eq_iff.2 ⟨⟨[], [], by simp, by simp, by simp⟩, hhead, hlast⟩

/-- For white space this is what trimming a whole text is to leave. -/
theorem trims_iff {s t : String} : Trims s t ↔ trimmed s = t := by
  have htrimmed : trimmed s = t ↔ trimWhile isBlank s.toList = t.toList := by
    unfold trimmed trim
    rw [← String.toList_inj, String.toList_ofList]
  rw [htrimmed, trimWhile_eq_iff]
  constructor
  · rintro ⟨⟨front, back, rfl, hfront, hback⟩, hbare⟩
    exact ⟨⟨front.toList, back.toList, by simp, hfront, hback⟩, hbare⟩
  · rintro ⟨⟨front, back, hs, hfront, hback⟩, hbare⟩
    refine ⟨⟨.ofList front, .ofList back, ?_, by simpa using hfront, by simpa using hback⟩, hbare⟩
    rw [← String.toList_inj, hs]
    simp

end BucketAcl.Text
