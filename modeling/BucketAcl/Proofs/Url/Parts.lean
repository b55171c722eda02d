/-
A URL read from its text by the delimiters alone, the way everybody
reads it who is not told its parts: the fragment follows the first `#`,
the query the first `?` before it, and the authority ends at the first
slash. A URL whose parts hold none of the characters that end them is
read as it was put together, and appending segments and pairs keeps it
so whatever their text is.
-/
import BucketAcl.Proofs.Url.Authority
import BucketAcl.Proofs.Url.Query

namespace BucketAcl.Url

open Text

-- =============================================================== reading

/-- What stands before the first `sep`, and what follows it. -/
def upTo (sep : Char) (cs : List Char) : List Char × Option (List Char) :=
  match cutAt sep cs with
  | some (a, b) => (a, some b)
  | none => (cs, none)

theorem upTo_append {sep : Char} {a : List Char} (h : sep ∉ a) (b : Option (List Char)) :
    upTo sep (a ++ b.elim [] (sep :: ·)) = (a, b) := by
  unfold upTo
  cases b with
  | none => rw [Option.elim_none, List.append_nil, (cutAt_eq_none_iff sep a).2 h]
  | some b => rw [Option.elim_some, cutAt_append h]

/-- The parts that the delimiters of a text set off. -/
structure Parts where
  scheme : List Char
  authority : List Char
  path : List Char
  query : Option (List Char)
  fragment : Option (List Char)
  deriving DecidableEq

/-- The parts of a text with an authority. -/
def Parts.ofText? (cs : List Char) : Option Parts :=
  let (whole, fragment) := upTo '#' cs
  let (target, query) := upTo '?' whole
  match cutAt ':' target with
  | some (scheme, '/' :: '/' :: r) =>
    let (authority, path) := upTo '/' r
    some { scheme, authority, path := path.elim [] ('/' :: ·), query, fragment }
  | _ => none

-- ========================================================= delimited parts

/-- The URL of a service, with an authority in its written form and a
query that no `#` ends. -/
structure IsDelimited (u : Url) : Prop where
  isService : IsService u
  authority : ∃ a, u.authority = some a ∧ a.IsWritten u.scheme
  query : ∀ q, u.query = some q → '#' ∉ q.toList

variable {u : Url}

/-- What stands before the query. -/
def target (u : Url) (a : Authority) : List Char :=
  u.scheme.toList ++ ':' :: '/' :: '/' :: (a.text.toList ++ u.path.text.toList)

theorem toList_text {a : Authority} (ha : u.authority = some a) :
    u.text.toList = (u.target a ++ (u.query.map String.toList).elim [] ('?' :: ·))
      ++ (u.fragment.map String.toList).elim [] ('#' :: ·) := by
  have hoption (o : Option String) (mark : Char) (sep : String) (hsep : sep.toList = [mark]) :
      (o.elim "" (sep ++ ·)).toList = (o.map String.toList).elim [] (mark :: ·) := by
    cases o with
    | none => rfl
    | some s =>
        show (sep ++ s).toList = _
        rw [String.toList_append, hsep]
        rfl
  have hauthority : u.authorityText = "//" ++ a.text := by
    unfold authorityText
    rw [ha]
  unfold text textWithoutFragment target
  rw [hauthority]
  simp only [String.toList_append]
  rw [hoption u.query '?' "?" rfl, hoption u.fragment '#' "#" rfl]
  simp

namespace IsDelimited

variable {a : Authority} {c : Char}

theorem not_mem_scheme (h : IsDelimited u) (hc : c = '#' ∨ c = '?' ∨ c = ':') :
    c ∉ u.scheme.toList := by
  rcases h.isService.scheme with hs | hs
  · rw [hs]
    rcases hc with rfl | rfl | rfl <;> decide
  · rw [hs]
    rcases hc with rfl | rfl | rfl <;> decide

theorem inAuthority (h : IsDelimited u) (ha : u.authority = some a) :
    ∀ d ∈ a.text.toList, InAuthority d := by
  obtain ⟨b, hb, hwritten⟩ := h.authority
  rw [ha] at hb
  cases hb
  exact hwritten.inAuthority

theorem not_mem_path (h : IsDelimited u) (hc : c = '#' ∨ c = '?') :
    c ∉ u.path.text.toList := by
  obtain ⟨ss, hp, -, hclean⟩ := h.isService.path
  intro hmem
  rw [hp] at hmem
  rcases Path.mem_text_segments hclean hmem with heq | hin
  · rcases hc with rfl | rfl
    · cases heq
    · cases heq
  · rcases hc with rfl | rfl
    · exact absurd hin.1 (by decide)
    · exact absurd hin.1 (by decide)

/-- Neither query nor fragment begin before they do. -/
theorem not_mem_target (h : IsDelimited u) (ha : u.authority = some a)
    (hc : c = '#' ∨ c = '?') : c ∉ u.target a := by
  have hscheme : c ∉ u.scheme.toList := h.not_mem_scheme (hc.imp_right .inl)
  have hpath : c ∉ u.path.text.toList := h.not_mem_path hc
  have hmarks : c ≠ ':' ∧ c ≠ '/' := by rcases hc with rfl | rfl <;> decide
  have hauthority : c ∉ a.text.toList := by
    intro hmem
    have hin := h.inAuthority ha c hmem
    rcases hc with rfl | rfl
    · exact hin.2.2.2 rfl
    · exact hin.2.2.1 rfl
  unfold target
  simp only [List.mem_append, List.mem_cons, not_or]
  exact ⟨hscheme, hmarks.1, hmarks.2, hmarks.2, hauthority, hpath⟩

theorem not_mem_target_query (h : IsDelimited u) (ha : u.authority = some a) :
    '#' ∉ u.target a ++ (u.query.map String.toList).elim [] ('?' :: ·) := by
  rw [List.mem_append, not_or]
  refine ⟨h.not_mem_target ha (.inl rfl), ?_⟩
  cases hq : u.query with
  | none => exact List.not_mem_nil
  | some q =>
      show '#' ∉ '?' :: q.toList
      rw [List.mem_cons, not_or]
      exact ⟨by decide, h.query q hq⟩

theorem exists_path_eq (h : IsDelimited u) : ∃ r, u.path.text.toList = '/' :: r := by
  obtain ⟨ss, hp, hne, -⟩ := h.isService.path
  obtain ⟨s, t, rfl⟩ := List.exists_cons_of_ne_nil hne
  rw [hp, Path.toList_text_segments, List.flatMap_cons]
  exact ⟨_, rfl⟩

/-- Where the parts are delimited the text tells them. -/
theorem ofText?_text (h : IsDelimited u) (ha : u.authority = some a) :
    Parts.ofText? u.text.toList = some
      { scheme := u.scheme.toList
        authority := a.text.toList
        path := u.path.text.toList
        query := u.query.map String.toList
        fragment := u.fragment.map String.toList } := by
  obtain ⟨r, hr⟩ := h.exists_path_eq
  have hslash : '/' ∉ a.text.toList := fun hmem => (h.inAuthority ha _ hmem).2.1 rfl
  have hscheme : cutAt ':' (u.target a)
      = some (u.scheme.toList, '/' :: '/' :: (a.text.toList ++ u.path.text.toList)) :=
    cutAt_append (h.not_mem_scheme (.inr (.inr rfl))) _
  have hauthority : upTo '/' (a.text.toList ++ '/' :: r) = (a.text.toList, some r) :=
    upTo_append hslash (some r)
  have hwhole : upTo '#' u.text.toList
      = (u.target a ++ (u.query.map String.toList).elim [] ('?' :: ·),
        u.fragment.map String.toList) := by
    rw [toList_text ha]
    exact upTo_append (h.not_mem_target_query ha) _
  have htarget : upTo '?' (u.target a ++ (u.query.map String.toList).elim [] ('?' :: ·))
      = (u.target a, u.query.map String.toList) :=
    upTo_append (h.not_mem_target ha (.inr rfl)) _
  simp only [Parts.ofText?, hwhole, htarget, hscheme, hr, hauthority]
  rfl

end IsDelimited

-- ============================================================== the server

/-- Two URLs that ask the same server under one scheme, and end in the
same fragment. -/
structure SameServer (u v : Url) : Prop where
  scheme : u.scheme = v.scheme
  authority : u.authority = v.authority
  fragment : u.fragment = v.fragment

namespace SameServer

variable {v : Url}

theorem refl (u : Url) : SameServer u u := ⟨rfl, rfl, rfl⟩

theorem pushSegment (h : SameServer u v) (segment : String) :
    SameServer (u.pushSegment segment) v := by
  unfold Url.pushSegment
  split
  · exact ⟨h.scheme, h.authority, h.fragment⟩
  · exact h

theorem popEmptySegment (h : SameServer u v) : SameServer u.popEmptySegment v := by
  unfold Url.popEmptySegment
  split
  · exact ⟨h.scheme, h.authority, h.fragment⟩
  · exact h

theorem appendPair (h : SameServer u v) (name value : String) :
    SameServer (u.appendPair name value) v := ⟨h.scheme, h.authority, h.fragment⟩

theorem bucketUrl (h : SameServer u v) (bucket : Option String) :
    SameServer (Handle.bucketUrl u bucket) v :=
  bucketUrl_induction (P := (SameServer · v)) (fun _ hu => hu.popEmptySegment)
    (fun _ s hu => hu.pushSegment s) h bucket

end SameServer

-- ============================================================= what is kept

theorem IsDelimited.pushSegment (h : IsDelimited u) (segment : String) :
    IsDelimited (u.pushSegment segment) := by
  obtain ⟨ss, hp, -⟩ := h.isService.path
  have hpush : u.pushSegment segment
      = { u with path := .segments (Segments.push (Url.isSpecial u.scheme) ss segment) } := by
    simp only [Url.pushSegment, hp]
  have hservice := h.isService.pushSegment segment
  rw [hpush] at hservice ⊢
  exact ⟨hservice, h.authority, h.query⟩

theorem IsDelimited.popEmptySegment (h : IsDelimited u) : IsDelimited u.popEmptySegment := by
  obtain ⟨ss, hp, -⟩ := h.isService.path
  have hpop : u.popEmptySegment = { u with path := .segments (Segments.popEmpty ss) } := by
    simp only [Url.popEmptySegment, hp]
  have hservice := h.isService.popEmptySegment
  rw [hpop] at hservice ⊢
  exact ⟨hservice, h.authority, h.query⟩

theorem IsDelimited.bucketUrl (h : IsDelimited u) (bucket : Option String) :
    IsDelimited (Handle.bucketUrl u bucket) :=
  bucketUrl_induction (fun _ hu => hu.popEmptySegment) (fun _ s hu => hu.pushSegment s) h bucket

/-- A pair is written without a `#`, whatever its text is. -/
theorem IsDelimited.appendPair (h : IsDelimited u) (name value : String) :
    IsDelimited (u.appendPair name value) := by
  refine ⟨h.isService.appendPair name value, h.authority, ?_⟩
  have hno (cs : List Char) : '#' ∉ Form.encode cs :=
    Form.not_mem_encode (by decide) (by decide) (by decide) (by decide) cs
  have hpair : '#' ∉ Form.encodePair name.toList value.toList := by
    unfold Form.encodePair
    rw [List.mem_append, List.mem_cons, not_or, not_or]
    exact ⟨hno _, by decide, hno _⟩
  have hformer : '#' ∉ (u.query.getD "").toList := by
    cases hq : u.query with
    | none => exact List.not_mem_nil
    | some q => exact h.query q hq
  have hseparator : '#' ∉ (if u.query.getD "" = "" then "" else "&").toList := by
    split <;> decide
  intro q hq
  unfold Url.appendPair at hq
  cases hq
  simp only [String.toList_append, String.toList_ofList, List.mem_append, not_or]
  exact ⟨⟨hformer, hseparator⟩, hpair⟩

/-- The URL that a handle reads is delimited. -/
theorem isDelimited_of_service {h : Handle} (hu : h.service = .ok u) : IsDelimited u := by
  have hservice := isService_of_service hu
  obtain ⟨scheme, cs, a, rest, hs, ha, rfl⟩ := eq_withPath_of_service hu
  have hspecial : isSpecial scheme = true := hservice.isSpecial
  refine ⟨hservice, ⟨a, rfl, isWritten_of_parseAuthority hspecial ha⟩, ?_⟩
  have hno (special : Bool) (r : List Char) :
      '#' ∉ (String.ofList (Percent.encode (Percent.keepInQuery special) r)).toList := by
    have hkeep : Percent.keepInQuery special '#' = false := by cases special <;> decide
    rw [String.toList_ofList]
    exact Percent.not_mem_encode hkeep (by decide) (by decide) r
  intro q hq
  show '#' ∉ q.toList
  have hquery : (readAfterPath (isSpecial scheme)
      (rest.dropWhile fun c => !endsPath c)).1 = some q := hq
  unfold readAfterPath at hquery
  dsimp only at hquery
  split at hquery
  · split at hquery
    · cases hquery
      exact hno _ _
    · cases hquery
      exact hno _ _
  · cases hquery
  · cases hquery

end BucketAcl.Url
