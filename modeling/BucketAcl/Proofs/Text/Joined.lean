/-
Texts that are joined by a separator. They can be taken apart again
where the separator is one character that stands in none of them, and
what stands in the joined text stands in a part or in the separator.
-/
namespace BucketAcl.Text

-- ============================================================ characters

theorem mem_intercalate {α : Type} {x : α} {sep : List α} {ls : List (List α)}
    (h : x ∈ sep.intercalate ls) : x ∈ sep ∨ ∃ l ∈ ls, x ∈ l := by
  induction ls with
  | nil => cases h
  | cons l r ih =>
      by_cases hr : r = []
      · rw [hr, List.intercalate_singleton] at h
        exact .inr ⟨l, List.mem_cons_self .., h⟩
      · rw [List.intercalate_cons_of_ne_nil hr, List.mem_append, List.mem_append] at h
        rcases h with (h | h) | h
        · exact .inr ⟨l, List.mem_cons_self .., h⟩
        · exact .inl h
        · rcases ih h with h | ⟨m, hm, h⟩
          · exact .inl h
          · exact .inr ⟨m, List.mem_cons_of_mem _ hm, h⟩

theorem mem_toList_intercalate {c : Char} {sep : String} {ss : List String}
    (h : c ∈ (sep.intercalate ss).toList) : c ∈ sep.toList ∨ ∃ s ∈ ss, c ∈ s.toList := by
  rw [String.toList_intercalate] at h
  rcases mem_intercalate h with h | ⟨l, hl, h⟩
  · exact .inl h
  · obtain ⟨s, hs, rfl⟩ := List.mem_map.1 hl
    exact .inr ⟨s, hs, h⟩

-- =============================================================== joining

/-- Texts that end one by one, before texts that are joined. -/
theorem join_append_intercalate {sep : String} (ls : List String) {r : List String}
    (hr : r ≠ []) :
    String.join (ls.map (· ++ sep)) ++ sep.intercalate r = sep.intercalate (ls ++ r) := by
  induction ls with
  | nil =>
      rw [List.map_nil, String.join_nil, String.empty_append]
      rfl
  | cons l t ih =>
      have hne : t ++ r ≠ [] := by simp [hr]
      rw [List.map_cons, String.join_cons, String.append_assoc, ih, List.cons_append,
        String.intercalate_cons_of_ne_nil hne]

-- ========================================================== taking apart

section

variable {sep : Char} {ss ts : List String}

/-- What is joined can be taken apart, as long as there is anything to
join. -/
theorem eq_of_intercalate_eq (hs : ∀ s ∈ ss, sep ∉ s.toList) (ht : ∀ t ∈ ts, sep ∉ t.toList)
    (hss : ss ≠ []) (hts : ts ≠ [])
    (h : (String.ofList [sep]).intercalate ss = (String.ofList [sep]).intercalate ts) :
    ss = ts := by
  have hsplit (l : List String) (hl : ∀ s ∈ l, sep ∉ s.toList) (hne : l ≠ []) :
      ((String.ofList [sep]).intercalate l).toList.splitOn sep = l.map String.toList := by
    rw [String.toList_intercalate, String.toList_ofList]
    exact List.splitOn_intercalate sep (List.forall_mem_map.2 hl) (by simpa using hne)
  have hparts : ss.map String.toList = ts.map String.toList := by
    rw [← hsplit ss hs hss, h, hsplit ts ht hts]
  exact (List.map_inj_right fun _ _ => String.toList_inj.1).1 hparts

/-- Nothing and one empty text are joined to the same, but to nothing
else. -/
theorem eq_of_intercalate_eq_of_ne_empty (hs : ∀ s ∈ ss, sep ∉ s.toList)
    (ht : ∀ t ∈ ts, sep ∉ t.toList) (hss : "" ∉ ss) (hts : "" ∉ ts)
    (h : (String.ofList [sep]).intercalate ss = (String.ofList [sep]).intercalate ts) :
    ss = ts := by
  have hnil {l : List String} (hl : ∀ s ∈ l, sep ∉ s.toList) (hne : "" ∉ l)
      (h : (String.ofList [sep]).intercalate l = "") : l = [] := by
    by_cases hl' : l = []
    · exact hl'
    · have hone : l = [""] := eq_of_intercalate_eq hl (by simp) hl' (by simp) h
      rw [hone] at hne
      exact absurd (List.mem_singleton_self "") hne
  by_cases hss' : ss = []
  · rw [hss'] at h
    rw [hss', hnil ht hts h.symm]
  · by_cases hts' : ts = []
    · rw [hts'] at h
      exact absurd (hnil hs hss h) hss'
    · exact eq_of_intercalate_eq hs ht hss' hts' h

end

end BucketAcl.Text
