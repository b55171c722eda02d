/-
The canonical request, read back. Its parts are joined by line ends,
and of all the parts only the headers hold any: one behind each header.
So the lines of the text are the method, the path, the query, one line
for each header, an empty line, the names and the digest, and as many
lines as there are tell how many headers there are. Each of these lines
gives back what it was written for, but for the order in which the pairs
of the query came.

Main statement: `Signable.canonical_eq_iff`.
-/
import BucketAcl.Http.Exchange
import BucketAcl.Proofs.SigV4.QueryOrder
import BucketAcl.Proofs.Text.Visible
import Mathlib.Data.List.Perm.Basic

namespace BucketAcl.SigV4

open Url Text

-- ============================================================ what is signed

/-- What a canonical request is made of. The method is a name as those of
headers are, and the digest is one of any bytes. -/
structure Signable where
  method : String
  url : Url
  headers : Index String
  digest : List UInt8

namespace Signable

/-- The text that is hashed before it is signed. -/
def canonical (s : Signable) : String :=
  canonicalRequest s.method s.url s.headers (Hex.text s.digest)

/-- The text that the path of the URL stands for. -/
def path (s : Signable) : List Char := Percent.decodeText s.url.path.text.toList

/-- Method and headers are such as can be sent, as far as the canonical
request is concerned: their names are tokens, and no value has a line
end. -/
structure IsWellFormed (s : Signable) : Prop where
  method : Http.isSendableName s.method = true
  names : ∀ e ∈ s.headers.entries, Http.isSendableName e.1 = true
  values : ∀ e ∈ s.headers.entries, '\n' ∉ e.2.toList

end Signable

-- ========================================================= no separators

theorem not_mem_of_isSendableName {name : String} (h : Http.isSendableName name = true)
    {c : Char} (hc : (c.isAlphanum || Http.nameMarks.contains c) = false) : c ∉ name.toList := by
  intro hmem
  unfold Http.isSendableName at h
  rw [Bool.and_eq_true, List.all_eq_true] at h
  have htoken := h.2 c hmem
  rw [hc] at htoken
  cases htoken

theorem lineEnd_not_mem_of_isSendableName {name : String}
    (h : Http.isSendableName name = true) : '\n' ∉ name.toList :=
  not_mem_of_isSendableName h (by decide)

theorem lineEnd_not_mem_canonicalUri (u : Url) : '\n' ∉ (canonicalUri u).toList := by
  unfold canonicalUri
  rw [String.toList_ofList]
  exact Percent.not_mem_encode (by decide) (by decide) (by decide) _

theorem lineEnd_not_mem_hex (bs : List UInt8) : '\n' ∉ (Hex.text bs).toList := by
  intro h
  have hvisible := isVisible_of_mem_hex h
  exact absurd hvisible (by decide)

theorem lineEnd_not_mem_canonicalQuery (u : Url) : '\n' ∉ (canonicalQuery u).toList := by
  intro h
  rw [canonicalQuery_eq] at h
  unfold orderedQuery at h
  rcases mem_toList_intercalate h with h | ⟨t, ht, h⟩
  · exact absurd h (by decide)
  · obtain ⟨p, hp, rfl⟩ := List.mem_map.1 ht
    have hspelled := List.mem_mergeSort.1 hp
    rw [pairText, String.toList_ofList, List.mem_append, List.mem_cons] at h
    have hno (hmem : '\n' ∈ p.1 ∨ '\n' ∈ p.2) : False := by
      rcases mem_spelled hspelled hmem with h | h
      · exact absurd h (by decide)
      · exact absurd h (by decide)
    rcases h with h | h | h
    · exact hno (.inl h)
    · exact absurd h (by decide)
    · exact hno (.inr h)

-- ================================================================= the lines

/-- The line of a header, without its end. -/
def headerLine (e : String × String) : String := e.1 ++ ":" ++ e.2

/-- The lines of a canonical request. The empty one stands where the
headers end. -/
def Signable.lines (s : Signable) : List String :=
  s.method :: canonicalUri s.url :: canonicalQuery s.url
    :: (s.headers.entries.map headerLine ++ ["", signedHeaders s.headers, Hex.text s.digest])

theorem Signable.canonical_eq (s : Signable) : s.canonical = "\n".intercalate s.lines := by
  have hheaders : canonicalHeaders s.headers
      = String.join ((s.headers.entries.map headerLine).map (· ++ "\n")) := by
    unfold canonicalHeaders
    rw [List.map_map]
    rfl
  let last : List String := ["", signedHeaders s.headers, Hex.text s.digest]
  have hlast : "\n".intercalate last
      = "\n" ++ "\n".intercalate [signedHeaders s.headers, Hex.text s.digest] := by
    rw [String.intercalate_cons_cons, String.empty_append]
  have hblock : canonicalHeaders s.headers ++ "\n"
      ++ "\n".intercalate [signedHeaders s.headers, Hex.text s.digest]
        = "\n".intercalate (s.headers.entries.map headerLine ++ last) := by
    rw [← join_append_intercalate _ (List.cons_ne_nil _ _), ← hheaders, hlast,
      String.append_assoc]
  have hne : s.headers.entries.map headerLine ++ last ≠ [] :=
    List.append_ne_nil_of_right_ne_nil _ (List.cons_ne_nil _ _)
  have hlines : "\n".intercalate s.lines
      = s.method ++ "\n" ++ (canonicalUri s.url ++ "\n" ++ (canonicalQuery s.url ++ "\n"
        ++ "\n".intercalate (s.headers.entries.map headerLine ++ last))) := by
    unfold lines
    rw [String.intercalate_cons_cons, String.intercalate_cons_cons,
      String.intercalate_cons_of_ne_nil hne]
  rw [hlines, ← hblock]
  unfold canonical canonicalRequest
  rw [String.intercalate_cons_cons, String.intercalate_cons_cons, String.intercalate_cons_cons,
    String.intercalate_cons_cons]

variable {a b s : Signable}

/-- No line holds a line end. -/
theorem Signable.IsWellFormed.lineEnd_not_mem (h : s.IsWellFormed) :
    ∀ l ∈ s.lines, '\n' ∉ l.toList := by
  intro l hl
  unfold lines at hl
  rw [List.mem_cons, List.mem_cons, List.mem_cons, List.mem_append] at hl
  rcases hl with rfl | rfl | rfl | hl | hl
  · exact lineEnd_not_mem_of_isSendableName h.method
  · exact lineEnd_not_mem_canonicalUri s.url
  · exact lineEnd_not_mem_canonicalQuery s.url
  · obtain ⟨e, he, rfl⟩ := List.mem_map.1 hl
    unfold headerLine
    rw [String.toList_append, String.toList_append]
    intro hmem
    rcases List.mem_append.1 hmem with hmem | hmem
    · rcases List.mem_append.1 hmem with hmem | hmem
      · exact lineEnd_not_mem_of_isSendableName (h.names e he) hmem
      · exact absurd hmem (by decide)
    · exact h.values e he hmem
  · simp only [List.mem_cons, List.not_mem_nil, or_false] at hl
    rcases hl with rfl | rfl | rfl
    · exact List.not_mem_nil
    · intro hmem
      rcases mem_toList_intercalate hmem with hmem | ⟨n, hn, hmem⟩
      · exact absurd hmem (by decide)
      · obtain ⟨e, he, rfl⟩ := List.mem_map.1 hn
        exact lineEnd_not_mem_of_isSendableName (h.names e he) hmem
    · exact lineEnd_not_mem_hex s.digest

theorem Signable.lines_eq_of_canonical_eq (ha : a.IsWellFormed) (hb : b.IsWellFormed)
    (h : a.canonical = b.canonical) : a.lines = b.lines := by
  rw [canonical_eq, canonical_eq] at h
  exact eq_of_intercalate_eq ha.lineEnd_not_mem hb.lineEnd_not_mem (by simp [lines])
    (by simp [lines]) h

-- ============================================================== line by line

theorem canonicalUri_eq_iff {u v : Url} :
    canonicalUri u = canonicalUri v
      ↔ Percent.decodeText u.path.text.toList = Percent.decodeText v.path.text.toList := by
  unfold canonicalUri
  constructor
  · intro h
    exact Percent.encode_injective (by decide) (String.ofList_inj.1 h)
  · intro h
    rw [h]

/-- A pair can be read off its text. -/
theorem pairText_spelled_injective : Function.Injective fun p : Pair => pairText (spelled p) := by
  intro p q h
  have hcut (x : Pair) : cutAt '=' (pairText (spelled x)).toList = some (spelled x) := by
    have hmem : spelled x ∈ [x].map spelled := List.mem_singleton_self _
    rw [pairText, String.toList_ofList]
    exact cutAt_append (equals_not_mem_name hmem) _
  have hspelled : spelled p = spelled q := by
    apply Option.some.inj
    rw [← hcut p, ← hcut q]
    exact congrArg (fun t : String => cutAt '=' t.toList) h
  obtain ⟨hname, hvalue⟩ := Prod.ext_iff.1 hspelled
  exact Prod.ext (Percent.encode_injective (by decide) hname)
    (Percent.encode_injective (by decide) hvalue)

theorem orderedQuery_byText_perm_iff {ps qs : List Pair} :
    orderedQuery byText ps = orderedQuery byText qs ↔ ps.Perm qs := by
  have hsorted (l : List Pair) :
      (((l.map spelled).mergeSort byText).map pairText).Perm
        (l.map fun p => pairText (spelled p)) := by
    have hperm := (List.mergeSort_perm (l.map spelled) byText).map pairText
    rw [List.map_map] at hperm
    exact hperm
  constructor
  · intro h
    have htexts := orderedQuery_eq_iff.1 h
    have hperm := (hsorted ps).symm.trans (htexts ▸ hsorted qs)
    exact (List.map_perm_map_iff pairText_spelled_injective).1 hperm
  · intro h
    have hperm := (List.map_perm_map_iff pairText_spelled_injective).2 h
    have htexts := List.Perm.eq_of_pairwise (fun _ _ _ _ => String.le_antisymm)
      (pairwise_map_byText (ps.map spelled)) (pairwise_map_byText (qs.map spelled))
      ((hsorted ps).trans (hperm.trans (hsorted qs).symm))
    exact orderedQuery_eq_iff.2 htexts

/-- A header can be read off its line: no name has a colon. -/
theorem headers_eq_of_lines_eq (ha : a.IsWellFormed) (hb : b.IsWellFormed)
    (h : a.headers.entries.map headerLine = b.headers.entries.map headerLine) :
    a.headers = b.headers := by
  have hcut {s : Signable} (hs : s.IsWellFormed) :
      (s.headers.entries.map headerLine).map (fun l => cutAt ':' l.toList)
        = s.headers.entries.map fun e => some (e.1.toList, e.2.toList) := by
    rw [List.map_map]
    apply List.map_congr_left
    intro e he
    have hcolon : ':' ∉ e.1.toList := not_mem_of_isSendableName (hs.names e he) (by decide)
    have hline : (headerLine e).toList = e.1.toList ++ ':' :: e.2.toList := by
      unfold headerLine
      rw [String.toList_append, String.toList_append, List.append_assoc]
      rfl
    rw [Function.comp_apply, hline]
    exact cutAt_append hcolon _
  have hentries : a.headers.entries.map (fun e => some (e.1.toList, e.2.toList))
      = b.headers.entries.map fun e => some (e.1.toList, e.2.toList) := by
    rw [← hcut ha, ← hcut hb, h]
  have hinj : ∀ x y : String × String,
      some (x.1.toList, x.2.toList) = some (y.1.toList, y.2.toList) → x = y := by
    intro x y hxy
    obtain ⟨hname, hvalue⟩ := Prod.ext_iff.1 (Option.some.inj hxy)
    exact Prod.ext (String.toList_inj.1 hname) (String.toList_inj.1 hvalue)
  cases hx : a.headers with
  | mk es hes =>
      cases hy : b.headers with
      | mk fs hfs =>
          rw [hx, hy] at hentries
          have heq : es = fs := (List.map_inj_right hinj).1 hentries
          subst heq
          rfl

theorem hexDigit_injective {m n : Nat} (hm : m < 16) (hn : n < 16)
    (h : Hex.digit m = Hex.digit n) : m = n := by
  have hall : ∀ i < 16, ∀ j < 16, Hex.digit i = Hex.digit j → i = j := by decide
  exact hall m hm n hn h

theorem hex_injective {as bs : List UInt8} (h : Hex.text as = Hex.text bs) : as = bs := by
  have hcs : Hex.encode as = Hex.encode bs := String.ofList_inj.1 h
  clear h
  induction as generalizing bs with
  | nil =>
      cases bs with
      | nil => rfl
      | cons y t => cases hcs
  | cons x r ih =>
      cases bs with
      | nil => cases hcs
      | cons y t =>
          obtain ⟨hhigh, hcs⟩ := List.cons.inj hcs
          obtain ⟨hlow, hcs⟩ := List.cons.inj hcs
          have hx := x.toNat_lt
          have hy := y.toNat_lt
          have hdiv := hexDigit_injective (by omega) (by omega) hhigh
          have hmod := hexDigit_injective (by omega) (by omega) hlow
          have hbyte : x.toNat = y.toNat := by omega
          rw [UInt8.toNat_inj.1 hbyte, ih hcs]

-- ============================================================ the main result

/-- Two requests give one canonical request exactly if their methods,
their decoded paths, their headers and their digests are the same, and
so are the pairs of their queries in some order, each as often. -/
theorem Signable.canonical_eq_iff {a b : Signable} (ha : a.IsWellFormed) (hb : b.IsWellFormed) :
    a.canonical = b.canonical
      ↔ a.method = b.method ∧ a.path = b.path ∧ a.url.queryPairs.Perm b.url.queryPairs
        ∧ a.headers = b.headers ∧ a.digest = b.digest := by
  constructor
  · intro h
    have hlines := Signable.lines_eq_of_canonical_eq ha hb h
    unfold Signable.lines at hlines
    obtain ⟨hmethod, hlines⟩ := List.cons.inj hlines
    obtain ⟨huri, hlines⟩ := List.cons.inj hlines
    obtain ⟨hquery, hlines⟩ := List.cons.inj hlines
    -- The last three lines are always there, so that the headers begin and end together.
    obtain ⟨hheaders, hlast⟩ := List.append_inj' hlines rfl
    obtain ⟨-, hlast⟩ := List.cons.inj hlast
    obtain ⟨-, hlast⟩ := List.cons.inj hlast
    obtain ⟨hdigest, -⟩ := List.cons.inj hlast
    rw [canonicalQuery_eq, canonicalQuery_eq] at hquery
    exact ⟨hmethod, canonicalUri_eq_iff.1 huri, orderedQuery_byText_perm_iff.1 hquery,
      headers_eq_of_lines_eq ha hb hheaders, hex_injective hdigest⟩
  · rintro ⟨hmethod, hpath, hpairs, hheaders, hdigest⟩
    have huri : canonicalUri a.url = canonicalUri b.url := canonicalUri_eq_iff.2 hpath
    have hquery : canonicalQuery a.url = canonicalQuery b.url := by
      rw [canonicalQuery_eq, canonicalQuery_eq]
      exact orderedQuery_byText_perm_iff.2 hpairs
    unfold Signable.canonical canonicalRequest
    rw [hmethod, huri, hquery, hheaders, hdigest]

/-- A request whose query has one pair twice, with an escaped slash in
its path. -/
def escapedRequest : Signable where
  method := "GET"
  url :=
    { scheme := "http"
      authority := some ⟨"", .name "store", none⟩
      path := .segments ["caf%C3%A9", "a%2fb"]
      query := some "x=1&y=+&x=%31"
      fragment := none }
  headers := (Index.empty.insert "x-amz-date" "20130524T000000Z").insert "host" "store:9000"
  digest := [0x00, 0xff]

/-- The same request in another spelling. -/
def respelledRequest : Signable :=
  { escapedRequest with
    url :=
      { escapedRequest.url with
        path := .segments ["caf%c3%a9", "a", "b"]
        query := some "y=%20&x=1&x=1" } }

/-- The same request with one pair less. -/
def shortenedRequest : Signable :=
  { respelledRequest with url := { respelledRequest.url with query := some "y=%20&x=1" } }

theorem canonical_escapedRequest :
    escapedRequest.IsWellFormed ∧ respelledRequest.IsWellFormed ∧ shortenedRequest.IsWellFormed
      ∧ escapedRequest.canonical = respelledRequest.canonical
      ∧ escapedRequest.canonical ≠ shortenedRequest.canonical := by
  have hescaped : escapedRequest.IsWellFormed := ⟨by decide, by decide, by decide⟩
  have hrespelled : respelledRequest.IsWellFormed := ⟨by decide, by decide, by decide⟩
  have hshortened : shortenedRequest.IsWellFormed := ⟨by decide, by decide, by decide⟩
  refine ⟨hescaped, hrespelled, hshortened, ?_, ?_⟩
  · rw [Signable.canonical_eq_iff hescaped hrespelled]
    exact ⟨rfl, by decide +kernel, by decide +kernel, rfl, rfl⟩
  · rw [ne_eq, Signable.canonical_eq_iff hescaped hshortened]
    rintro ⟨-, -, hpairs, -⟩
    have hlength := hpairs.length_eq
    revert hlength
    decide +kernel

end BucketAcl.SigV4
