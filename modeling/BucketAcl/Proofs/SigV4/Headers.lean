/-
The map that the headers of a request are collected in: what a look-up
finds after headers were set one after the other, and which headers a
request has before it is signed.
-/
import BucketAcl.Proofs.Index
import BucketAcl.Proofs.Text.Visible
import BucketAcl.SigV4.Signature

namespace BucketAcl.SigV4

open Text

/-- The name that a header is set under. -/
def headerName (name : String) : String := .ofList (name.toList.map Char.toLower)

-- ==================================================== setting headers

theorem get?_setHeader (headers : Index String) (name other value : String) :
    (setHeader headers name value).get? other
      = if other = headerName name then some (trimmed value) else headers.get? other :=
  Index.get?_insert headers _ other _

/-- Sets headers one after the other. -/
def setHeaders (headers : Index String) (es : List (String × String)) : Index String :=
  es.foldl (fun m e => setHeader m e.1 e.2) headers

/-- The last value that is set under a name, in whatever case. -/
def lastValue? (name : String) (es : List (String × String)) : Option String :=
  Index.last? (fun e => headerName e.1 = name) (fun e => trimmed e.2) es

theorem lastValue?_append (name : String) (es fs : List (String × String)) :
    lastValue? name (es ++ fs) = (lastValue? name fs <|> lastValue? name es) :=
  Index.last?_append _ _ es fs

theorem exists_of_lastValue? {name value : String} {es : List (String × String)}
    (h : lastValue? name es = some value) :
    ∃ e ∈ es, headerName e.1 = name ∧ trimmed e.2 = value := by
  obtain ⟨e, he, hname, hvalue⟩ := Index.exists_of_last? h
  exact ⟨e, he, of_decide_eq_true hname, hvalue⟩

theorem isSome_lastValue? {name : String} {es : List (String × String)} :
    (lastValue? name es).isSome = true ↔ ∃ e ∈ es, headerName e.1 = name := by
  simp only [lastValue?, Index.isSome_last?, decide_eq_true_eq]

theorem setHeaders_append (headers : Index String) (es fs : List (String × String)) :
    setHeaders headers (es ++ fs) = setHeaders (setHeaders headers es) fs :=
  List.foldl_append

theorem setHeaders_concat (headers : Index String) (es : List (String × String))
    (name value : String) :
    setHeaders headers (es ++ [(name, value)]) = setHeader (setHeaders headers es) name value :=
  setHeaders_append headers es [(name, value)]

/-- Headers that are set one after the other leave the last value of each
name. -/
theorem get?_setHeaders (headers : Index String) (es : List (String × String)) (name : String) :
    (setHeaders headers es).get? name = (lastValue? name es <|> headers.get? name) := by
  induction es generalizing headers with
  | nil => rfl
  | cons e r ih =>
      have hlast : lastValue? name [e]
          = if headerName e.1 = name then some (trimmed e.2) else none := by
        rw [lastValue?, Index.last?_singleton]
        simp only [decide_eq_true_eq]
      rw [← List.singleton_append, setHeaders_append, ih, lastValue?_append, hlast]
      show (lastValue? name r <|> (setHeader headers e.1 e.2).get? name) = _
      rw [get?_setHeader]
      by_cases hname : headerName e.1 = name
      · rw [if_pos hname, if_pos hname.symm]
        cases lastValue? name r <;> rfl
      · rw [if_neg hname, if_neg (Ne.symm hname)]
        cases lastValue? name r <;> rfl

/-- Setting headers loses no name. -/
theorem mem_names_setHeaders {headers : Index String} {es : List (String × String)}
    {name : String} : name ∈ (setHeaders headers es).names
      ↔ name ∈ headers.names ∨ ∃ e ∈ es, headerName e.1 = name := by
  rw [Index.mem_names_iff, Index.mem_names_iff, get?_setHeaders, ← isSome_lastValue?]
  cases lastValue? name es <;> simp

/-- A name that is not set keeps what it had. -/
theorem get?_setHeaders_of_forall_ne {other : String} {es : List (String × String)}
    (h : ∀ e ∈ es, headerName e.1 ≠ other) (headers : Index String) :
    (setHeaders headers es).get? other = headers.get? other := by
  have hnone : lastValue? other es = none := by
    rw [← Option.not_isSome_iff_eq_none, isSome_lastValue?]
    rintro ⟨e, he, heq⟩
    exact h e he heq
  rw [get?_setHeaders, hnone]
  rfl

/-- Of the values that a name is set to the last one counts. -/
theorem get?_setHeaders_last (headers : Index String) (before : List (String × String))
    (name value : String) {after : List (String × String)}
    (h : ∀ e ∈ after, headerName e.1 ≠ headerName name) :
    (setHeaders headers (before ++ (name, value) :: after)).get? (headerName name)
      = some (trimmed value) := by
  have hset : setHeaders headers (before ++ (name, value) :: after)
      = setHeaders (setHeader (setHeaders headers before) name value) after :=
    setHeaders_append headers before _
  rw [hset, get?_setHeaders_of_forall_ne h, get?_setHeader, if_pos rfl]

-- ==================================================== before signing

/-- The headers that are set on every request of a payload, in their
order. -/
def ownEntries (u : Url) (now : Time.Instant) (payload : Payload) : List (String × String) :=
  [("host", hostHeader u), ("x-amz-date", now.basicText), ("user-agent", userAgent),
    ("x-amz-content-sha256", Hex.text payload.digest)]
    ++ payload.length.toList.map (fun n => ("content-length", toString n))
    ++ payload.md5.toList.map (fun d => ("content-md5", Base64.text d))

theorem requestHeaders_eq (former : Index String) (u : Url) (now : Time.Instant)
    (payload : Payload) (custom : Index String) :
    requestHeaders former u now payload custom
      = setHeaders former (ownEntries u now payload ++ custom.entries) := rfl

/-- The names of the headers that are set on every request. -/
def ownNames : List String :=
  ["host", "x-amz-date", "user-agent", "x-amz-content-sha256", "content-length", "content-md5"]

/-- They are in lower case already. -/
theorem headerName_of_mem_ownNames {name : String} (h : name ∈ ownNames) :
    headerName name = name := by
  have hlower : ∀ n ∈ ownNames, headerName n = n := by decide
  exact hlower name h

theorem map_fst_ownEntries (u : Url) (now : Time.Instant) (payload : Payload) :
    (ownEntries u now payload).map Prod.fst
      = ["host", "x-amz-date", "user-agent", "x-amz-content-sha256"]
        ++ payload.length.toList.map (fun _ => "content-length")
        ++ payload.md5.toList.map (fun _ => "content-md5") := by
  unfold ownEntries
  rw [List.map_append, List.map_append, List.map_map, List.map_map]
  rfl

theorem sublist_ownNames (u : Url) (now : Time.Instant) (payload : Payload) :
    ((ownEntries u now payload).map Prod.fst).Sublist ownNames := by
  have hoption {α : Type} (o : Option α) (name : String) :
      (o.toList.map fun _ => name).Sublist [name] := by
    cases o with
    | none => exact List.nil_sublist _
    | some x => exact List.Sublist.refl _
  rw [map_fst_ownEntries]
  exact ((List.Sublist.refl _).append (hoption payload.length _)).append
    (hoption payload.md5 _)

theorem headerName_mem_ownNames {u : Url} {now : Time.Instant} {payload : Payload}
    {e : String × String} (h : e ∈ ownEntries u now payload) : headerName e.1 ∈ ownNames := by
  have hmem := (sublist_ownNames u now payload).subset (List.mem_map_of_mem h)
  rw [headerName_of_mem_ownNames hmem]
  exact hmem

/-- No header is set twice on every request. -/
theorem nodup_ownEntries (u : Url) (now : Time.Instant) (payload : Payload) :
    ((ownEntries u now payload).map Prod.fst).Nodup :=
  (sublist_ownNames u now payload).nodup (by decide)

variable {u : Url} {now : Time.Instant} {payload : Payload} {custom : Index String}

/-- Headers other than the ones of every request come from the custom
ones. -/
theorem get?_requestHeaders_eq_none {other : String} (hown : other ∉ ownNames)
    (hcustom : ∀ e ∈ custom.entries, headerName e.1 ≠ other) :
    (requestHeaders .empty u now payload custom).get? other = none := by
  rw [requestHeaders_eq]
  refine get?_setHeaders_of_forall_ne ?_ _
  intro e he heq
  rcases List.mem_append.1 he with he | he
  · exact hown (heq ▸ headerName_mem_ownNames he)
  · exact hcustom e he heq

/-- A header that is set on every request is sent as it was set, unless
a custom one takes its place. -/
theorem get?_requestHeaders_of_mem {name value : String}
    (h : (name, value) ∈ ownEntries u now payload)
    (hcustom : ∀ e ∈ custom.entries, headerName e.1 ≠ name) (former : Index String) :
    (requestHeaders former u now payload custom).get? name = some (trimmed value) := by
  have hlower (e : String × String) (he : e ∈ ownEntries u now payload) :
      headerName e.1 = e.1 :=
    headerName_of_mem_ownNames
      ((sublist_ownNames u now payload).subset (List.mem_map_of_mem he))
  have hname : headerName name = name := hlower (name, value) h
  have hnodup := nodup_ownEntries u now payload
  obtain ⟨before, after, hsplit⟩ := List.append_of_mem h
  have hafter : ∀ e ∈ after ++ custom.entries, headerName e.1 ≠ headerName name := by
    intro e he heq
    rw [hname] at heq
    rcases List.mem_append.1 he with he | he
    · have hmem : e ∈ ownEntries u now payload := by
        rw [hsplit]
        exact List.mem_append_right _ (List.mem_cons_of_mem _ he)
      rw [hlower e hmem] at heq
      rw [hsplit, List.map_append, List.map_cons, List.nodup_append, List.nodup_cons] at hnodup
      have hagain : e.1 ∈ after.map Prod.fst := List.mem_map_of_mem he
      rw [heq] at hagain
      exact hnodup.2.1.1 hagain
    · exact hcustom e he heq
  have hlast := get?_setHeaders_last former before name value hafter
  rw [hname] at hlast
  rw [requestHeaders_eq, hsplit, List.append_assoc, List.cons_append]
  exact hlast

theorem get?_requestHeaders_host
    (hcustom : ∀ e ∈ custom.entries, headerName e.1 ≠ "host") (former : Index String) :
    (requestHeaders former u now payload custom).get? "host" = some (trimmed (hostHeader u)) := by
  have hmem : ("host", hostHeader u) ∈ ownEntries u now payload := List.mem_cons_self ..
  exact get?_requestHeaders_of_mem hmem hcustom former

/-- The date is sent as it is signed. -/
theorem get?_requestHeaders_date
    (hcustom : ∀ e ∈ custom.entries, headerName e.1 ≠ "x-amz-date") (former : Index String) :
    (requestHeaders former u now payload custom).get? "x-amz-date" = some now.basicText := by
  have hmem : ("x-amz-date", now.basicText) ∈ ownEntries u now payload :=
    List.mem_cons_of_mem _ (List.mem_cons_self ..)
  rw [get?_requestHeaders_of_mem hmem hcustom former,
    trimmed_of_isVisible (fun c => Time.isVisible_of_mem_basicText)]

/-- The digest of the body is sent in hexadecimal. -/
theorem get?_requestHeaders_digest
    (hcustom : ∀ e ∈ custom.entries, headerName e.1 ≠ "x-amz-content-sha256")
    (former : Index String) :
    (requestHeaders former u now payload custom).get? "x-amz-content-sha256"
      = some (Hex.text payload.digest) := by
  have hmem : ("x-amz-content-sha256", Hex.text payload.digest)
      ∈ ownEntries u now payload := by simp [ownEntries]
  rw [get?_requestHeaders_of_mem hmem hcustom former,
    trimmed_of_isVisible (fun c => isVisible_of_mem_hex)]

end BucketAcl.SigV4
