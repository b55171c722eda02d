/-
The URL of a service. Whatever is configured as an endpoint, a handle
reads it under one of two schemes, so that the URL has a path with
segments, and at least one of them.
-/
import BucketAcl.Handle
import BucketAcl.Proofs.Text.Visible
import BucketAcl.Proofs.Url.Segments

namespace BucketAcl.Url

open Text

-- ========================================================= the scheme

/-- A text that begins with a special scheme keeps it when its ends are
trimmed. -/
theorem trimWhile_append_of_ends {p : Char → Bool} {a b : Char} (ha : p a = false)
    (hb : p b = false) (cs rest : List Char) :
    trimWhile p (a :: (cs ++ [b]) ++ rest) = a :: (cs ++ [b]) ++ dropEndWhile p rest := by
  have hfirst : (a :: (cs ++ [b]) ++ rest).dropWhile p = a :: (cs ++ [b]) ++ rest :=
    dropWhile_cons_of_false ha _
  have hlast : (a :: (cs ++ [b])).reverse.dropWhile p = (a :: (cs ++ [b])).reverse := by
    have hrev : (a :: (cs ++ [b])).reverse = b :: (cs.reverse ++ [a]) := by simp
    rw [hrev]
    exact dropWhile_cons_of_false hb _
  unfold trimWhile dropEndWhile
  rw [hfirst, List.reverse_append, List.dropWhile_append]
  split
  · rename_i hempty
    rw [List.isEmpty_iff.1 hempty, hlast]
    simp
  · simp

/-- What is read from a special scheme other than that of files. -/
theorem eq_withPath_of_parse {s scheme : String} {text : List Char} {u : Url}
    (hc : cutScheme? (trimWhile isMargin s.toList) = some (scheme, text))
    (hf : scheme ≠ "file") (hs : isSpecial scheme = true) (h : parse s = .ok u) :
    ∃ cs a rest, parseAuthority scheme cs = .ok (a, rest)
      ∧ u = withPath scheme (some a) (readPath true) rest := by
  unfold parse at h
  rw [hc] at h
  simp only [if_neg hf, if_pos hs] at h
  cases ha : parseAuthority scheme ((Segments.kept text).dropWhile (isSlash true)) with
  | error f =>
      rw [ha] at h
      cases h
  | ok p =>
      rw [ha] at h
      cases h
      exact ⟨_, p.1, p.2, ha, rfl⟩

-- ======================================================== the service

/-- The URL of a service: one of two schemes, somebody to ask, and a
path with segments. -/
structure IsService (u : Url) : Prop where
  scheme : u.scheme = "http" ∨ u.scheme = "https"
  authority : ∃ a, u.authority = some a
  path : ∃ ss, u.path = .segments ss ∧ ss ≠ [] ∧ Segments.Clean ss

/-- Both schemes are special, and neither is that of files. -/
theorem isSpecial_and_ne_file {scheme : String} (hscheme : scheme = "http" ∨ scheme = "https") :
    Url.isSpecial scheme = true ∧ scheme ≠ "file" := by
  rcases hscheme with rfl | rfl
  · decide
  · decide

theorem IsService.isSpecial {u : Url} (h : IsService u) : isSpecial u.scheme = true :=
  (isSpecial_and_ne_file h.scheme).1

theorem isService_withPath {scheme : String} (hs : scheme = "http" ∨ scheme = "https")
    (a : Authority) (rest : List Char) :
    IsService (withPath scheme (some a) (readPath true) rest) where
  scheme := hs
  authority := ⟨a, rfl⟩
  path := by
    show ∃ ss, readPath true (rest.takeWhile fun c => !endsPath c) = .segments ss ∧ _
    cases rest.takeWhile fun c => !endsPath c with
    | nil => exact ⟨[""], rfl, by simp, Segments.clean_empty_segment⟩
    | cons c r =>
        exact ⟨_, rfl, Segments.read_pieces_ne_nil true _, Segments.clean_read_pieces true _⟩

/-- An endpoint without a scheme is read under `https`. -/
theorem serviceText_eq (endpoint : String) :
    ∃ scheme rest, (scheme = "http" ∨ scheme = "https")
      ∧ (Handle.serviceText endpoint).toList = scheme.toList ++ "://".toList ++ rest := by
  unfold Handle.serviceText
  split
  · rename_i h
    rcases Bool.or_eq_true_iff.1 h with h | h
    · obtain ⟨rest, hr⟩ := List.isPrefixOf_iff_prefix.1 h
      exact ⟨"http", rest, .inl rfl, hr.symm⟩
    · obtain ⟨rest, hr⟩ := List.isPrefixOf_iff_prefix.1 h
      exact ⟨"https", rest, .inr rfl, hr.symm⟩
  · exact ⟨"https", endpoint.toList, .inr rfl, String.toList_append⟩

section

variable {scheme : String} (hscheme : scheme = "http" ∨ scheme = "https")

include hscheme

theorem cutScheme?_append (text : List Char) :
    cutScheme? (scheme.toList ++ ':' :: text) = some (scheme, text) := by
  rcases hscheme with rfl | rfl
  · rfl
  · rfl

/-- A text under the scheme of a service is read under it, since trimming
ends at its slashes at the latest. -/
theorem cutScheme?_trim {s : String} {rest : List Char}
    (h : s.toList = scheme.toList ++ "://".toList ++ rest) :
    ∃ text, cutScheme? (trimWhile isMargin s.toList) = some (scheme, text) := by
  have hfirst : ∃ a letters, scheme.toList = a :: letters ∧ isMargin a = false := by
    rcases hscheme with rfl | rfl
    · exact ⟨'h', "ttp".toList, rfl, by decide⟩
    · exact ⟨'h', "ttps".toList, rfl, by decide⟩
  obtain ⟨a, letters, hletters, ha⟩ := hfirst
  have hends : s.toList = a :: ((letters ++ [':', '/']) ++ ['/']) ++ rest := by
    rw [h, hletters]
    simp
  have htrim : trimWhile isMargin s.toList
      = scheme.toList ++ ':' :: ("//".toList ++ dropEndWhile isMargin rest) := by
    rw [hends, trimWhile_append_of_ends ha (by decide), hletters]
    simp
  exact ⟨_, htrim ▸ cutScheme?_append hscheme _⟩

end

/-- The URL that a handle reads: its scheme is one of two, and authority
and path follow it. -/
theorem eq_withPath_of_service {h : Handle} {u : Url} (hu : h.service = .ok u) :
    ∃ scheme cs a rest, (scheme = "http" ∨ scheme = "https")
      ∧ parseAuthority scheme cs = .ok (a, rest)
      ∧ u = withPath scheme (some a) (readPath true) rest := by
  unfold Handle.service at hu
  cases hp : parse (Handle.serviceText h.region.endpoint) with
  | error f =>
      rw [hp] at hu
      cases hu
  | ok v =>
      rw [hp] at hu
      cases hu
      obtain ⟨scheme, rest, hscheme, hs⟩ := serviceText_eq h.region.endpoint
      obtain ⟨text, hc⟩ := cutScheme?_trim hscheme hs
      obtain ⟨hspecial, hfile⟩ := isSpecial_and_ne_file hscheme
      obtain ⟨cs, a, r, ha, hv⟩ := eq_withPath_of_parse hc hfile hspecial hp
      exact ⟨scheme, cs, a, r, hscheme, ha, hv⟩

/-- The URL that a handle reads is one of a service. -/
theorem isService_of_service {h : Handle} {u : Url} (hu : h.service = .ok u) : IsService u := by
  obtain ⟨scheme, -, a, rest, hs, -, rfl⟩ := eq_withPath_of_service hu
  exact isService_withPath hs a rest

-- ================================================== below the service

/-- Appending a segment keeps the form of the URL. -/
theorem IsService.pushSegment {u : Url} (h : IsService u) (segment : String) :
    IsService (u.pushSegment segment) := by
  obtain ⟨ss, hp, hne, hc⟩ := h.path
  have hpush : u.pushSegment segment
      = { u with path := .segments (Segments.push (Url.isSpecial u.scheme) ss segment) } := by
    simp only [Url.pushSegment, hp]
  rw [hpush]
  exact ⟨h.scheme, h.authority, _, rfl, Segments.push_ne_nil hne _ _, Segments.clean_push hc _ _⟩

theorem IsService.popEmptySegment {u : Url} (h : IsService u) :
    IsService u.popEmptySegment := by
  obtain ⟨ss, hp, hne, hc⟩ := h.path
  have hpop : u.popEmptySegment = { u with path := .segments (Segments.popEmpty ss) } := by
    simp only [Url.popEmptySegment, hp]
  rw [hpop]
  exact ⟨h.scheme, h.authority, _, rfl, Segments.popEmpty_ne_nil hne, Segments.clean_popEmpty hc⟩

theorem IsService.appendPair {u : Url} (h : IsService u) (name value : String) :
    IsService (u.appendPair name value) := ⟨h.scheme, h.authority, h.path⟩

/-- What no segment changes holds of the URL of a bucket, if it holds of
that of the service. -/
theorem bucketUrl_induction {P : Url → Prop} (hpop : ∀ u, P u → P u.popEmptySegment)
    (hpush : ∀ u segment, P u → P (u.pushSegment segment)) {u : Url} (hu : P u)
    (bucket : Option String) : P (Handle.bucketUrl u bucket) := by
  cases bucket with
  | none => exact hu
  | some b => exact hpush _ b (hpop u hu)

theorem IsService.bucketUrl {u : Url} (h : IsService u) (bucket : Option String) :
    IsService (Handle.bucketUrl u bucket) :=
  bucketUrl_induction (fun _ hu => hu.popEmptySegment) (fun _ s hu => hu.pushSegment s) h bucket

end BucketAcl.Url
