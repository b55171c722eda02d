/-
White space as Unicode's property `White_Space` draws it, trimming by
it, and the two cuts at a separator that the readers of short texts
share. All of it works on lists of characters; `trimmed` is the form
for whole strings.
-/
namespace BucketAcl.Text

/-- Characters with Unicode's property `White_Space`. -/
def isBlank (c : Char) : Bool :=
  ('\t' ≤ c && c ≤ '\r') || c == ' ' || c == '\u0085' || c == '\u00a0'
    || c == '\u1680' || ('\u2000' ≤ c && c ≤ '\u200a') || c == '\u2028'
    || c == '\u2029' || c == '\u202f' || c == '\u205f' || c == '\u3000'

/-- Drops the characters of a class from the end. -/
def dropEndWhile (p : Char → Bool) (cs : List Char) : List Char :=
  (cs.reverse.dropWhile p).reverse

/-- Drops the characters of a class from both ends. -/
def trimWhile (p : Char → Bool) (cs : List Char) : List Char :=
  dropEndWhile p (cs.dropWhile p)

/-- Drops white space from both ends. -/
def trim (cs : List Char) : List Char := trimWhile isBlank cs

/-- The text without the white space at its ends. -/
def trimmed (s : String) : String := .ofList (trim s.toList)

-- ============================================================== cuts

/-- The parts before and after the first `sep`, if there is one. -/
def cutAt (sep : Char) : List Char → Option (List Char × List Char)
  | [] => none
  | c :: r =>
    if c = sep then some ([], r) else (cutAt sep r).map fun (a, b) => (c :: a, b)

/-- The parts before and after the last `sep`, if there is one. -/
def cutAtLast (sep : Char) (cs : List Char) : Option (List Char × List Char) :=
  (cutAt sep cs.reverse).map fun (b, a) => (a.reverse, b.reverse)

/-- The rest after a literal at the head. -/
def after? (literal : List Char) (cs : List Char) : Option (List Char) :=
  if literal.isPrefixOf cs then some (cs.drop literal.length) else none

/-- The part before the first occurrence of a literal and the rest
after it. -/
def cutAtLiteral (literal : List Char) : List Char → Option (List Char × List Char)
  | [] => if literal = [] then some ([], []) else none
  | c :: r =>
    match after? literal (c :: r) with
    | some rest => some ([], rest)
    | none => (cutAtLiteral literal r).map fun (a, b) => (c :: a, b)

theorem cutAt_eq_none_iff (sep : Char) (cs : List Char) :
    cutAt sep cs = none ↔ sep ∉ cs := by
  induction cs with
  | nil => simp [cutAt]
  | cons c r ih =>
    by_cases h : c = sep
    · simp [cutAt, h]
    · have h' : ¬ sep = c := fun e => h e.symm
      simp [cutAt, h, h', ih]

theorem eq_of_cutAt {sep : Char} {cs a b : List Char}
    (h : cutAt sep cs = some (a, b)) : cs = a ++ sep :: b ∧ sep ∉ a := by
  induction cs generalizing a with
  | nil => simp [cutAt] at h
  | cons c r ih =>
    by_cases hc : c = sep
    · simp only [cutAt, if_pos hc, Option.some.injEq, Prod.mk.injEq] at h
      obtain ⟨rfl, rfl⟩ := h
      simp [hc]
    · simp only [cutAt, if_neg hc, Option.map_eq_some_iff] at h
      obtain ⟨⟨x, y⟩, hxy, e⟩ := h
      simp only [Prod.mk.injEq] at e
      obtain ⟨rfl, rfl⟩ := e
      obtain ⟨hr, hn⟩ := ih hxy
      exact ⟨by rw [hr]; rfl, by simp [hn, Ne.symm hc]⟩

theorem cutAt_append {sep : Char} {a : List Char} (h : sep ∉ a) (b : List Char) :
    cutAt sep (a ++ sep :: b) = some (a, b) := by
  induction a with
  | nil => simp [cutAt]
  | cons c r ih =>
    have hc : ¬ c = sep := fun e => h (by simp [e])
    have hr : sep ∉ r := fun e => h (List.mem_cons_of_mem _ e)
    simp [cutAt, hc, ih hr]

theorem length_dropWhile_le (p : Char → Bool) (cs : List Char) :
    (cs.dropWhile p).length ≤ cs.length :=
  (List.dropWhile_suffix p).length_le

theorem length_of_after? {literal cs r : List Char} (h : after? literal cs = some r) :
    r.length ≤ cs.length := by
  simp only [after?] at h
  split at h
  · rw [← Option.some.inj h, List.length_drop]
    omega
  · simp at h

theorem length_of_cutAtLiteral {literal cs a b : List Char}
    (h : cutAtLiteral literal cs = some (a, b)) : b.length ≤ cs.length := by
  induction cs generalizing a with
  | nil =>
    simp only [cutAtLiteral] at h
    split at h
    · simp only [Option.some.injEq, Prod.mk.injEq] at h
      simp [← h.2]
    · simp at h
  | cons c r ih =>
    simp only [cutAtLiteral] at h
    split at h
    · rename_i rest hr
      simp only [Option.some.injEq, Prod.mk.injEq] at h
      rw [← h.2]
      exact length_of_after? hr
    · simp only [Option.map_eq_some_iff] at h
      obtain ⟨⟨x, y⟩, hxy, e⟩ := h
      simp only [Prod.mk.injEq] at e
      obtain ⟨-, rfl⟩ := e
      have := ih hxy
      rw [List.length_cons]
      omega

end BucketAcl.Text
