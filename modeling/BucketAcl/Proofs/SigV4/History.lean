/-
The headers of one signer over any number of steps. Headers are set and
requests are signed in any order, and all of it goes into one map that
is never emptied, signatures too. What the steps write is laid down as
one list of entries; of those that have one name, in whatever case, the
last one counts.

Main statement: `run_keeps_headers`.
-/
import BucketAcl.Proofs.SigV4.Signed
import BucketAcl.Proofs.Text.Normal

namespace BucketAcl.SigV4

open Text

-- ============================================================== steps

/-- What is done with a signer: a header is set, or a request is signed
with headers of its own. -/
inductive Step where
  | set (name value : String)
  | sign (u : Url) (payload : Payload) (custom : Index String)

namespace Step

/-- A header of this name is asked for. -/
def Names (name : String) : Step → Prop
  | set n _ => headerName n = name
  | sign _ _ custom => ∃ e ∈ custom.entries, headerName e.1 = name

/-- A request is signed. -/
def IsSign : Step → Prop
  | set _ _ => False
  | sign _ _ _ => True

end Step

namespace Signer

variable (s : Signer) (method : String)

/-- The headers after a step. -/
def step (headers : Index String) : Step → Index String
  | .set name value => setHeader headers name value
  | .sign u payload custom => s.sign headers method u payload custom

/-- The headers after all steps of a signer. -/
def run (steps : List Step) : Index String := steps.foldl (s.step method) .empty

/-- The signature of a request with these headers. -/
def authorizationFor (u : Url) (payload : Payload) (headers : Index String) : String :=
  let region := signingRegion s.handle
  authorization s.handle.credentials.accessKey (scope s.now.basicDate region s.service)
    (";".intercalate headers.names)
    (signature s.handle.credentials.secretKey s.now region s.service
      (canonicalRequest method u headers (Hex.text payload.digest)))

/-- What a step writes over headers, in its order: for a request its own
headers, the custom ones, and then the signature. -/
def written (headers : Index String) : Step → List (String × String)
  | .set name value => [(name, value)]
  | .sign u payload custom =>
    let unsigned := ownEntries u s.now payload ++ custom.entries
    if s.handle.isAnonymous then unsigned
    else unsigned
      ++ [("authorization", s.authorizationFor method u payload (setHeaders headers unsigned))]

/-- What steps write over headers, one after the other. -/
def history (headers : Index String) : List Step → List (String × String)
  | [] => []
  | st :: rest => s.written method headers st ++ history (s.step method headers st) rest

variable {s : Signer} {method : String}

theorem sign_eq_setHeader (hs : s.handle.isAnonymous = false) (headers : Index String) (u : Url)
    (payload : Payload) (custom : Index String) :
    s.sign headers method u payload custom
      = setHeader (requestHeaders headers u s.now payload custom) "authorization"
        (s.authorizationFor method u payload (requestHeaders headers u s.now payload custom)) := by
  unfold Signer.sign
  rw [hs]
  rfl

/-- A step sets what it writes. -/
theorem step_eq (headers : Index String) (st : Step) :
    s.step method headers st = setHeaders headers (s.written method headers st) := by
  cases st with
  | set name value => rfl
  | sign u payload custom =>
      unfold step written
      cases hs : s.handle.isAnonymous with
      | true =>
          unfold Signer.sign
          rw [hs]
          rfl
      | false =>
          dsimp only
          rw [sign_eq_setHeader hs, requestHeaders_eq, if_neg Bool.false_ne_true,
            setHeaders_concat]

/-- Steps set what is written over the whole of them. -/
theorem foldl_step_eq (headers : Index String) (steps : List Step) :
    steps.foldl (s.step method) headers
      = setHeaders headers (s.history method headers steps) := by
  induction steps generalizing headers with
  | nil => rfl
  | cons st rest ih =>
      rw [List.foldl_cons, ih, history, setHeaders_append, step_eq]

theorem run_append (steps later : List Step) :
    s.run method (steps ++ later)
      = setHeaders (s.run method steps) (s.history method (s.run method steps) later) := by
  unfold run
  rw [List.foldl_append, foldl_step_eq]

theorem run_eq (steps : List Step) :
    s.run method steps = setHeaders .empty (s.history method .empty steps) :=
  foldl_step_eq .empty steps

-- ============================================================ one map

/-- What holds of the headers of a signer after some steps. -/
structure Keeps (s : Signer) (method : String) (steps : List Step) : Prop where
  /-- No name has a letter in upper case. -/
  lower : ∀ name ∈ (s.run method steps).names, ∀ c ∈ name.toList, c.isUpper = false
  /-- No value has white space at its ends. -/
  bare : ∀ e ∈ (s.run method steps).entries, HasBareEnds e.2
  /-- A name that is there stays, whatever comes later. -/
  kept : ∀ later, (s.run method steps).names ⊆ (s.run method (steps ++ later)).names
  /-- Each name has the last value that was written under it. -/
  last : ∀ name, (s.run method steps).get? name
    = lastValue? name (s.history method .empty steps)

theorem keeps (s : Signer) (method : String) (steps : List Step) : s.Keeps method steps := by
  have hlast : ∀ name, (s.run method steps).get? name
      = lastValue? name (s.history method .empty steps) := by
    intro name
    rw [run_eq, get?_setHeaders]
    cases lastValue? name (s.history method .empty steps) <;> rfl
  refine ⟨?lower, ?bare, ?kept, hlast⟩
  case lower =>
    intro name hname c hc
    rw [run_eq, mem_names_setHeaders] at hname
    obtain ⟨e, -, rfl⟩ := hname.resolve_left List.not_mem_nil
    rw [headerName, String.toList_ofList, List.mem_map] at hc
    obtain ⟨d, -, rfl⟩ := hc
    exact isUpper_toLower d
  case bare =>
    rintro ⟨name, value⟩ he
    have hvalue := Index.get?_of_mem_entries he
    rw [hlast] at hvalue
    obtain ⟨e, -, -, rfl⟩ := exists_of_lastValue? hvalue
    exact hasBareEnds_trimmed e.2
  case kept =>
    intro later name hname
    rw [run_append, mem_names_setHeaders]
    exact .inl hname

theorem mem_names_run {steps : List Step} {name : String} :
    name ∈ (s.run method steps).names
      ↔ ∃ e ∈ s.history method .empty steps, headerName e.1 = name := by
  rw [run_eq, mem_names_setHeaders]
  exact or_iff_right List.not_mem_nil

-- ========================================================= signatures

/-- The headers of every request are no signatures, but custom ones may
be. -/
theorem exists_unsigned_authorization_iff {u : Url} {now : Time.Instant} {payload : Payload}
    {custom : Index String} :
    (∃ e ∈ ownEntries u now payload ++ custom.entries, headerName e.1 = "authorization")
      ↔ ∃ e ∈ custom.entries, headerName e.1 = "authorization" := by
  have hown : ¬∃ e ∈ ownEntries u now payload, headerName e.1 = "authorization" := by
    rintro ⟨e, he, heq⟩
    have hno : "authorization" ∉ ownNames := by decide
    exact hno (heq ▸ headerName_mem_ownNames he)
  simp only [List.mem_append, or_and_right, exists_or]
  exact or_iff_right hown

/-- A step writes a signature if it signs, or where it is told to set a
header of that name. -/
theorem exists_mem_written_iff {headers : Index String} {st : Step} :
    (∃ e ∈ s.written method headers st, headerName e.1 = "authorization")
      ↔ st.Names "authorization" ∨ (s.handle.isAnonymous = false ∧ st.IsSign) := by
  cases st with
  | set name value => simp [written, Step.Names, Step.IsSign]
  | sign u payload custom =>
      have hname : headerName "authorization" = "authorization" := by decide
      unfold written Step.Names Step.IsSign
      cases hs : s.handle.isAnonymous with
      | true =>
          dsimp only
          rw [if_pos rfl, exists_unsigned_authorization_iff]
          simp
      | false =>
          refine iff_of_true ⟨_, List.mem_append_right _ (List.mem_singleton_self _), hname⟩ ?_
          exact .inr ⟨rfl, trivial⟩

theorem exists_mem_history_iff {headers : Index String} {steps : List Step} :
    (∃ e ∈ s.history method headers steps, headerName e.1 = "authorization")
      ↔ ∃ st ∈ steps, st.Names "authorization" ∨ (s.handle.isAnonymous = false ∧ st.IsSign) := by
  induction steps generalizing headers with
  | nil => simp [history]
  | cons st rest ih =>
      simp only [history, List.mem_append, List.mem_cons, or_and_right, exists_or, ih,
        exists_mem_written_iff, exists_eq_left]

theorem authorization_mem_run_iff {steps : List Step} :
    "authorization" ∈ (s.run method steps).names
      ↔ ∃ st ∈ steps, st.Names "authorization" ∨ (s.handle.isAnonymous = false ∧ st.IsSign) := by
  rw [mem_names_run, exists_mem_history_iff]

/-- The headers that a request has before it is signed, after steps. -/
def unsignedAfter (s : Signer) (method : String) (steps : List Step) (u : Url) (payload : Payload)
    (custom : Index String) : Index String :=
  requestHeaders (s.run method steps) u s.now payload custom

/-- A signature over headers lists the names of all of them. -/
structure SignsAll (s : Signer) (method : String) (steps : List Step) (u : Url)
    (payload : Payload) (custom : Index String) : Prop where
  /-- The signature is written over the headers that the request has by
  then, and lists them in their order. -/
  run_eq : s.run method (steps ++ [.sign u payload custom])
    = (s.unsignedAfter method steps u payload custom).insert "authorization"
      (authorization s.handle.credentials.accessKey
        (scope s.now.basicDate (signingRegion s.handle) s.service)
        (";".intercalate (s.unsignedAfter method steps u payload custom).names)
        (signature s.handle.credentials.secretKey s.now (signingRegion s.handle) s.service
          (canonicalRequest method u (s.unsignedAfter method steps u payload custom)
            (Hex.text payload.digest))))
  ascending : (s.unsignedAfter method steps u payload custom).names.Pairwise (· < ·)
  /-- They are the headers of all steps before, and its own ones. -/
  mem_names_iff : ∀ name, name ∈ (s.unsignedAfter method steps u payload custom).names
    ↔ name ∈ (s.run method steps).names
      ∨ ∃ e ∈ ownEntries u s.now payload ++ custom.entries, headerName e.1 = name
  /-- A signature is among them where a step before has left one. -/
  authorization_mem_iff : "authorization" ∈ (s.unsignedAfter method steps u payload custom).names
    ↔ (∃ st ∈ steps, st.Names "authorization" ∨ st.IsSign)
      ∨ ∃ e ∈ custom.entries, headerName e.1 = "authorization"

theorem signsAll (hs : s.handle.isAnonymous = false) (steps : List Step) (u : Url)
    (payload : Payload) (custom : Index String) :
    s.SignsAll method steps u payload custom := by
  have hnames : ∀ name, name ∈ (s.unsignedAfter method steps u payload custom).names
      ↔ name ∈ (s.run method steps).names
        ∨ ∃ e ∈ ownEntries u s.now payload ++ custom.entries, headerName e.1 = name := by
    intro name
    rw [unsignedAfter, requestHeaders_eq, mem_names_setHeaders]
  refine ⟨?run, ?ascending, hnames, ?authorization⟩
  case run =>
    have hrun : s.run method (steps ++ [.sign u payload custom])
        = s.sign (s.run method steps) method u payload custom := by
      unfold run
      rw [List.foldl_append]
      rfl
    have htrimmed : trimmed (s.authorizationFor method u payload
        (s.unsignedAfter method steps u payload custom))
          = s.authorizationFor method u payload (s.unsignedAfter method steps u payload custom) :=
      trimmed_authorization _ _ _ fun c hc => isVisible_of_mem_hex hc
    rw [hrun, sign_eq_setHeader hs]
    exact congrArg ((s.unsignedAfter method steps u payload custom).insert "authorization") htrimmed
  case ascending =>
    exact List.pairwise_map.2 (s.unsignedAfter method steps u payload custom).ascending
  case authorization =>
    rw [hnames, authorization_mem_run_iff, exists_unsigned_authorization_iff, hs]
    simp only [true_and]

-- ================================================================ runs

/-- The headers of a signer after any steps. Names are in lower case and
values have bare ends, no name is ever lost, and each has the value that
was written last. A signature lists the names of all headers that are
there before it is written, those of former signatures too. A signer
that signs nothing has a signature only where it was told to set one. -/
theorem run_keeps_headers (s : Signer) (method : String) (steps : List Step) :
    s.Keeps method steps
      ∧ if s.handle.isAnonymous then
          "authorization" ∈ (s.run method steps).names ↔ ∃ st ∈ steps, st.Names "authorization"
        else ∀ u payload custom, s.SignsAll method steps u payload custom := by
  refine ⟨keeps s method steps, ?_⟩
  cases hs : s.handle.isAnonymous with
  | true =>
      rw [if_pos rfl, authorization_mem_run_iff, hs]
      simp
  | false =>
      rw [if_neg Bool.false_ne_true]
      exact signsAll hs steps

end Signer

end BucketAcl.SigV4
