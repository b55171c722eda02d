/-
The pairs of a query. What is appended is read again as it was: names
and values lose nothing to the form encoding, and a pair of any text is
one pair.
-/
import BucketAcl.Proofs.Url.Percent
import BucketAcl.Url.Basic

namespace BucketAcl.Url

open Text

namespace Form

-- ========================================================= round trip

/-- A character that stands in a form as it is, or as a plus sign. -/
def keepOrSpace (c : Char) : Bool := Percent.keepInForm c || c == ' '

/-- No character but a space is written with a plus sign. -/
theorem plus_not_mem_encodeChar (c : Char) : '+' ∉ Percent.encodeChar Percent.keepInForm c := by
  have hkeep : Percent.keepInForm '+' = false := by decide
  have h := Percent.not_mem_encode hkeep (by decide) (by decide) [c]
  simpa [Percent.encode] using h

theorem map_encodeChar (c : Char) :
    (encodeChar c).map (fun d => if d = '+' then ' ' else d)
      = Percent.encodeChar keepOrSpace c := by
  unfold encodeChar
  by_cases hc : c = ' '
  · subst hc
    decide
  · have hkeep : keepOrSpace c = Percent.keepInForm c := by simp [keepOrSpace, hc]
    have hsame : ∀ d ∈ Percent.encodeChar Percent.keepInForm c,
        (if d = '+' then ' ' else d) = d := by
      intro d hd
      rw [if_neg]
      rintro rfl
      exact plus_not_mem_encodeChar c hd
    rw [if_neg hc, List.map_congr_left hsame, List.map_id']
    unfold Percent.encodeChar
    rw [hkeep]

/-- A name or a value is read as it was written. -/
theorem decode_encode (cs : List Char) : decode (encode cs) = cs := by
  have hmap : (encode cs).map (fun d => if d = '+' then ' ' else d)
      = Percent.encode keepOrSpace cs := by
    unfold encode Percent.encode
    rw [List.map_flatMap]
    exact congrArg (fun f => cs.flatMap f) (funext map_encodeChar)
  unfold decode
  rw [hmap]
  exact Percent.decodeText_encode (by decide) cs

-- ============================================================== pairs

/-- A separator of a query is not written in a name or a value. -/
theorem not_mem_encode {c : Char} (hk : Percent.keepInForm c = false) (hplus : c ≠ '+')
    (hp : c ≠ '%') (hd : c ∉ Percent.escapeDigits) (cs : List Char) : c ∉ encode cs := by
  intro h
  obtain ⟨x, -, hx⟩ := List.mem_flatMap.1 h
  unfold encodeChar at hx
  split at hx
  · exact hplus (List.mem_singleton.1 hx)
  · have hno := Percent.not_mem_encode hk hp hd [x]
    simp only [Percent.encode, List.flatMap_cons, List.flatMap_nil, List.append_nil] at hno
    exact hno hx

theorem decodePair_encodePair (name value : List Char) :
    decodePair (encodePair name value) = (name, value) := by
  have hno : '=' ∉ encode name :=
    not_mem_encode (by decide) (by decide) (by decide) (by decide) name
  unfold decodePair encodePair
  rw [cutAt_append hno]
  simp only [decode_encode]

/-- A pair stands in a query as one part. -/
theorem splitOn_encodePair (name value : List Char) :
    (encodePair name value).splitOn '&' = [encodePair name value] := by
  have hno (cs : List Char) : '&' ∉ encode cs :=
    not_mem_encode (by decide) (by decide) (by decide) (by decide) cs
  apply List.splitOn_eq_singleton
  unfold encodePair
  rw [List.mem_append, List.mem_cons]
  rintro (h | h | h)
  · exact hno name h
  · exact absurd h (by decide)
  · exact hno value h

theorem pairs_encodePair (name value : List Char) :
    pairs (encodePair name value) = [(name, value)] := by
  have hne : encodePair name value ≠ [] := by simp [encodePair]
  unfold pairs
  rw [splitOn_encodePair]
  simp [hne, decodePair_encodePair]

/-- The pairs before a separator and the ones after it are read on their
own. -/
theorem pairs_append (a b : List Char) : pairs (a ++ '&' :: b) = pairs a ++ pairs b := by
  unfold pairs
  rw [List.splitOn_append_cons_self, List.filter_append, List.map_append]

end Form

/-- One more pair follows the ones of the query. -/
theorem queryPairs_appendPair (u : Url) (name value : String) :
    (u.appendPair name value).queryPairs = u.queryPairs ++ [(name.toList, value.toList)] := by
  let pair := Form.encodePair name.toList value.toList
  have hformer : u.queryPairs = Form.pairs (u.query.getD "").toList := by
    unfold queryPairs
    cases u.query with
    | none => rfl
    | some q => rfl
  have happend : (u.appendPair name value).queryPairs
      = Form.pairs (u.query.getD "" ++ (if u.query.getD "" = "" then "" else "&")
        ++ String.ofList pair).toList := rfl
  rw [happend, hformer, String.toList_append, String.toList_append, String.toList_ofList]
  by_cases hq : u.query.getD "" = ""
  · rw [if_pos hq, hq]
    exact Form.pairs_encodePair _ _
  · rw [if_neg hq, List.append_assoc]
    refine (Form.pairs_append _ pair).trans ?_
    rw [Form.pairs_encodePair]

end BucketAcl.Url
