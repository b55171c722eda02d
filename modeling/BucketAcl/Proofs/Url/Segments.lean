/-
The segments of a path: which characters stand in them, and what one
more segment does to them. A segment holds no separator of a URL, so
that the text of a path can be taken apart again.
-/
import BucketAcl.Proofs.Url.Percent
import BucketAcl.Url.Path

namespace BucketAcl.Url.Segments

open Percent

-- ========================================================= characters

/-- A character that may stand in a segment. -/
def InSegment (c : Char) : Prop := keepInPath c = true ∧ c ≠ '/'

/-- Segments in their written form. -/
def Clean (ss : List String) : Prop := ∀ s ∈ ss, ∀ c ∈ s.toList, InSegment c

theorem inSegment_of_mem_escape {c : Char} (h : c = '%' ∨ c ∈ escapeDigits) : InSegment c := by
  rcases h with rfl | h
  · exact ⟨by decide, by decide⟩
  · have hall : ∀ d ∈ escapeDigits, (keepInPath d && d != '/') = true :=
      List.all_eq_true.1 (by decide)
    obtain ⟨hkeep, hslash⟩ := Bool.and_eq_true_iff.1 (hall c h)
    exact ⟨hkeep, bne_iff_ne.1 hslash⟩

theorem clean_append {ss ts : List String} : Clean (ss ++ ts) ↔ Clean ss ∧ Clean ts :=
  List.forall_mem_append

theorem clean_singleton {s : String} : Clean [s] ↔ ∀ c ∈ s.toList, InSegment c :=
  List.forall_mem_singleton

theorem clean_empty_segment : Clean [""] := by
  intro s hs c hc
  rw [List.mem_singleton.1 hs] at hc
  cases hc

theorem clean_dropLast {ss : List String} (h : Clean ss) : Clean ss.dropLast :=
  fun s hs => h s (List.dropLast_subset ss hs)

theorem clean_above {ss : List String} (h : Clean ss) : Clean (above ss) := by
  unfold above
  split
  · split
    · exact h
    · exact clean_dropLast h
  · intro s hs
    cases hs

-- ============================================================ reading

/-- A piece between slashes has no slash. -/
theorem clean_enter {ss : List String} (h : Clean ss) {piece : List Char} (hp : '/' ∉ piece)
    (isLast : Bool) : Clean (enter ss piece isLast) := by
  have hplace {ts : List String} (ht : Clean ts) :
      Clean (if isLast then ts ++ [""] else ts) := by
    split
    · exact clean_append.2 ⟨ht, clean_empty_segment⟩
    · exact ht
  simp only [enter]
  by_cases ha : isAbove piece = true
  · rw [if_pos ha]
    exact hplace (clean_above h)
  rw [if_neg ha]
  by_cases hh : isHere piece = true
  · rw [if_pos hh]
    exact hplace h
  rw [if_neg hh]
  refine clean_append.2 ⟨h, clean_singleton.2 ?_⟩
  intro c hc
  rw [String.toList_ofList] at hc
  rcases mem_encode hc with ⟨hc, hk⟩ | hc
  · refine ⟨hk, ?_⟩
    rintro rfl
    exact hp hc
  · exact inSegment_of_mem_escape hc

theorem clean_read {ps : List (List Char)} (hp : ∀ p ∈ ps, '/' ∉ p) :
    ∀ {ss : List String}, Clean ss → Clean (read ss ps) := by
  induction ps with
  | nil => exact fun h => h
  | cons p r ih =>
      intro ss h
      rw [read]
      exact ih (fun q hq => hp q (List.mem_cons_of_mem _ hq))
        (clean_enter h (hp p (List.mem_cons_self ..)) _)

/-- Reading leaves at least one segment: the last piece has a place. -/
theorem read_ne_nil {ps : List (List Char)} (hp : ps ≠ []) :
    ∀ ss : List String, read ss ps ≠ [] := by
  induction ps with
  | nil => exact absurd rfl hp
  | cons p r ih =>
      intro ss
      rw [read]
      cases r with
      | nil =>
          show enter ss p true ≠ []
          simp only [enter, if_true]
          by_cases ha : isAbove p = true
          · simp [ha]
          by_cases hh : isHere p = true
          · simp [ha, hh]
          · simp [ha, hh]
      | cons q t => exact ih (by simp) _

/-- The pieces of a text between separators have none. -/
theorem not_mem_of_mem_splitOn {sep : Char} {cs p : List Char} (h : p ∈ cs.splitOn sep) :
    sep ∉ p := by
  induction cs generalizing p with
  | nil =>
      rw [List.splitOn_nil, List.mem_singleton] at h
      subst h
      exact List.not_mem_nil
  | cons c r ih =>
      rw [List.splitOn_cons_eq_if_modifyHead] at h
      split at h
      · rcases List.mem_cons.1 h with rfl | h
        · exact List.not_mem_nil
        · exact ih h
      · rename_i hne
        obtain ⟨q, t, hs⟩ := List.exists_cons_of_ne_nil (List.splitOn_ne_nil sep r)
        rw [hs] at h ih
        rcases List.mem_cons.1 h with rfl | h
        · intro hm
          rcases List.mem_cons.1 hm with rfl | hm
          · simp at hne
          · exact ih (List.mem_cons_self ..) hm
        · exact ih (List.mem_cons_of_mem _ h)

theorem clean_read_pieces (special : Bool) (cs : List Char) :
    Clean (read [] (pieces special cs)) :=
  clean_read (fun _ hp => not_mem_of_mem_splitOn hp) (fun _ hs => by cases hs)

theorem read_pieces_ne_nil (special : Bool) (cs : List Char) :
    read [] (pieces special cs) ≠ [] :=
  read_ne_nil (List.splitOn_ne_nil '/' _) []

-- ========================================================== appending

theorem clean_forAppending {ss : List String} (h : Clean ss) : Clean (forAppending ss) := by
  unfold forAppending
  split
  · intro s hs
    cases hs
  · exact h

theorem clean_popEmpty {ss : List String} (h : Clean ss) : Clean (popEmpty ss) := by
  unfold popEmpty
  split
  · exact clean_dropLast h
  · exact h

/-- An appended text is written with no slash. -/
theorem clean_push {ss : List String} (h : Clean ss) (special : Bool) (segment : String) :
    Clean (push special ss segment) := by
  have hf := clean_forAppending h
  simp only [push]
  by_cases hd : segment = "." ∨ segment = ".."
  · rw [if_pos hd]
    exact h
  rw [if_neg hd]
  split
  · exact clean_append.2 ⟨clean_above hf, clean_empty_segment⟩
  · split
    · exact clean_append.2 ⟨hf, clean_empty_segment⟩
    · refine clean_append.2 ⟨hf, clean_singleton.2 ?_⟩
      intro c hc
      rw [String.toList_ofList] at hc
      rcases mem_encode hc with ⟨-, hk⟩ | hc
      · simp only [keepInSegment, Bool.and_eq_true, bne_iff_ne] at hk
        exact ⟨hk.1.1.1, hk.1.1.2⟩
      · exact inSegment_of_mem_escape hc

theorem push_ne_nil {ss : List String} (h : ss ≠ []) (special : Bool) (segment : String) :
    push special ss segment ≠ [] := by
  simp only [push]
  by_cases hd : segment = "." ∨ segment = ".."
  · rw [if_pos hd]
    exact h
  rw [if_neg hd]
  split
  · simp
  · split
    · simp
    · simp

theorem popEmpty_ne_nil {ss : List String} (h : ss ≠ []) : popEmpty ss ≠ [] := by
  unfold popEmpty
  split
  · rename_i hl
    intro he
    have := congrArg List.length he
    rw [List.length_dropLast, List.length_nil] at this
    omega
  · exact h

end BucketAcl.Url.Segments

namespace BucketAcl.Url.Path

open Segments

-- =============================================================== text

theorem toList_text_segments (ss : List String) :
    (Path.segments ss).text.toList = ss.flatMap fun s => '/' :: s.toList := by
  simp [Path.text, String.toList_join, List.flatMap_map]

/-- In the text of a path stand slashes and what may stand in segments. -/
theorem mem_text_segments {ss : List String} (h : Clean ss) {c : Char}
    (hc : c ∈ (Path.segments ss).text.toList) : c = '/' ∨ InSegment c := by
  rw [toList_text_segments] at hc
  obtain ⟨s, hs, hc⟩ := List.mem_flatMap.1 hc
  rcases List.mem_cons.1 hc with rfl | hc
  · exact .inl rfl
  · exact .inr (h s hs c hc)

/-- A path has no question mark, so that it ends where a query begins. -/
theorem question_not_mem_text {ss : List String} (h : Clean ss) :
    '?' ∉ (Path.segments ss).text.toList := by
  intro hc
  rcases mem_text_segments h hc with hc | hc
  · exact absurd hc (by decide)
  · exact absurd hc.1 (by decide)

end BucketAcl.Url.Path
