/-
Which requests can be sent. All that an action puts into a header is
visible; what else stands there is the host of the endpoint and, where
requests are signed, the access key and the region. So it is the handle
alone that decides, and all of its requests can be sent or none.

Main statement: `isSendable_iff`.
-/
import BucketAcl.Proofs.SigV4.Signed

namespace BucketAcl.Http

open Text

-- ============================================================= values

theorem isSendableValue_append (s t : String) :
    isSendableValue (s ++ t) = (isSendableValue s && isSendableValue t) := by
  unfold isSendableValue
  rw [String.toList_append, List.all_append]

/-- A text of visible characters can be sent. -/
theorem isSendableValue_of_isVisible {s : String} (h : ∀ c ∈ s.toList, IsVisible c) :
    isSendableValue s = true := by
  refine List.all_eq_true.2 fun c hc => ?_
  obtain ⟨hlo, hhi⟩ := h c hc
  have hlow : ' ' ≤ c := UInt32.le_iff_toNat_le.2 (Nat.le_trans (by decide) hlo)
  have hne : c ≠ '\x7f' := by
    rintro rfl
    exact absurd hhi (by decide)
  simp [hlow, hne]

/-- What is joined can be sent if its parts can. -/
theorem isSendableValue_intercalate {sep : String} (hsep : isSendableValue sep = true)
    {ss : List String} (h : ∀ s ∈ ss, isSendableValue s = true) :
    isSendableValue (sep.intercalate ss) = true := by
  unfold isSendableValue at hsep h ⊢
  rw [List.all_eq_true] at hsep ⊢
  intro c hc
  rcases mem_toList_intercalate hc with hc | ⟨s, hs, hc⟩
  · exact hsep c hc
  · exact List.all_eq_true.1 (h s hs) c hc

end BucketAcl.Http

namespace BucketAcl.Text

-- ===================================================== visible values

theorem isVisible_of_mem_base64 {bs : List UInt8} {c : Char}
    (h : c ∈ (Base64.text bs).toList) : IsVisible c := by
  have hall : ∀ c ∈ '=' :: '/' :: Base64.alphabet, IsVisible c := forall_of_all (by decide)
  have hdigit (n : Nat) : Base64.digit n ∈ '=' :: '/' :: Base64.alphabet := by
    unfold Base64.digit
    cases hd : Base64.alphabet[n]? with
    | none => exact List.mem_cons_of_mem _ (List.mem_cons_self ..)
    | some c =>
        exact List.mem_cons_of_mem _ (List.mem_cons_of_mem _ (List.mem_of_getElem? hd))
  apply hall
  rw [Base64.text, String.toList_ofList] at h
  fun_induction Base64.encode bs with
  | case1 => cases h
  | case2 a =>
      simp only [List.mem_cons, List.not_mem_nil, or_false] at h
      rcases h with rfl | rfl | rfl | rfl
      · exact hdigit _
      · exact hdigit _
      · exact List.mem_cons_self ..
      · exact List.mem_cons_self ..
  | case3 a b =>
      simp only [List.mem_cons, List.not_mem_nil, or_false] at h
      rcases h with rfl | rfl | rfl | rfl
      · exact hdigit _
      · exact hdigit _
      · exact hdigit _
      · exact List.mem_cons_self ..
  | case4 a b c r ih =>
      simp only [List.mem_cons] at h
      rcases h with rfl | rfl | rfl | rfl | h
      · exact hdigit _
      · exact hdigit _
      · exact hdigit _
      · exact hdigit _
      · exact ih h

theorem isVisible_of_mem_toString {n : Nat} {c : Char} (h : c ∈ (toString n).toList) :
    IsVisible c := (Url.inAuthority_of_mem_toString h).1

theorem isVisible_of_mem_label {a : CannedAcl} {c : Char} (h : c ∈ a.label.toList) :
    IsVisible c := by
  have hall : ∀ c ∈ a.label.toList, IsVisible c := by
    apply forall_of_all
    cases a <;> decide
  exact hall c h

end BucketAcl.Text

namespace BucketAcl.SigV4

open Http Text

-- ============================================================ headers

/-- An entry of a map is one of those that were set. -/
theorem mem_entries_setHeaders {es : List (String × String)} {headers : Index String}
    {e : String × String} (h : e ∈ (setHeaders headers es).entries) :
    e ∈ headers.entries ∨ ∃ x ∈ es, e = (headerName x.1, trimmed x.2) := by
  have hvalue : (setHeaders headers es).get? e.1 = some e.2 := Index.get?_of_mem_entries h
  rw [get?_setHeaders] at hvalue
  cases hlast : lastValue? e.1 es with
  | none =>
      rw [hlast] at hvalue
      exact .inl (Index.mem_entries_of_get? hvalue)
  | some value =>
      rw [hlast] at hvalue
      obtain ⟨x, hx, hname, htrimmed⟩ := exists_of_lastValue? hlast
      exact .inr ⟨x, hx, Prod.ext hname.symm (htrimmed.trans (Option.some.inj hvalue)).symm⟩

/-- The value of a header that is set on every request is visible, but
for the host. -/
theorem isVisible_of_mem_ownEntries {u : Url} {now : Time.Instant} {payload : Payload}
    {x : String × String} (hx : x ∈ ownEntries u now payload) :
    x = ("host", hostHeader u) ∨ ∀ c ∈ x.2.toList, IsVisible c := by
  simp only [ownEntries, List.cons_append, List.nil_append, List.mem_cons, List.mem_append,
    List.mem_map] at hx
  rcases hx with rfl | rfl | rfl | rfl | ⟨n, -, rfl⟩ | ⟨d, -, rfl⟩
  · exact .inl rfl
  · exact .inr fun c => Time.isVisible_of_mem_basicText
  · exact .inr (forall_of_all (by decide))
  · exact .inr fun c => isVisible_of_mem_hex
  · exact .inr fun c => isVisible_of_mem_toString
  · exact .inr fun c => isVisible_of_mem_base64

/-- The names of the headers that are ever set. -/
def allNames : List String := "authorization" :: "x-amz-acl" :: ownNames

theorem isSendableName_of_mem_allNames {name : String} (h : name ∈ allNames) :
    isSendableName name = true ∧ isSendableValue name = true := by
  have hall : ∀ n ∈ allNames, isSendableName n = true ∧ isSendableValue n = true := by decide
  exact hall name h

variable {a : Action} {u : Url} {now : Time.Instant}

theorem isVisible_of_mem_customHeaders {x : String × String}
    (hx : x ∈ a.customHeaders.entries) : ∀ c ∈ x.2.toList, IsVisible c := by
  unfold Action.customHeaders Action.headers? at hx
  split at hx
  · rename_i acl _
    rw [List.mem_singleton.1 hx]
    exact fun c => isVisible_of_mem_label
  · cases hx

/-- A header before signing is the host, or can be sent. -/
theorem mem_entries_unsigned {e : String × String} (he : e ∈ (unsigned a u now).entries) :
    e.1 ∈ allNames ∧ (e.2 = trimmed (hostHeader u) ∨ isSendableValue e.2 = true) := by
  unfold unsigned at he
  rw [requestHeaders_eq] at he
  obtain ⟨x, hx, rfl⟩ := (mem_entries_setHeaders he).resolve_left (List.not_mem_nil)
  have hvisible (hv : ∀ c ∈ x.2.toList, IsVisible c) : isSendableValue (trimmed x.2) = true := by
    rw [trimmed_of_isVisible hv]
    exact isSendableValue_of_isVisible hv
  rcases List.mem_append.1 hx with hx | hx
  · refine ⟨List.mem_cons_of_mem _ (List.mem_cons_of_mem _ (headerName_mem_ownNames hx)), ?_⟩
    rcases isVisible_of_mem_ownEntries hx with rfl | hv
    · exact .inl rfl
    · exact .inr (hvisible hv)
  · have hname : headerName x.1 ∈ allNames := by
      rw [Action.name_of_mem_customHeaders hx]
      decide
    exact ⟨hname, .inr (hvisible (isVisible_of_mem_customHeaders hx))⟩

theorem get?_unsigned_host : (unsigned a u now).get? "host" = some (trimmed (hostHeader u)) :=
  get?_requestHeaders_host (Action.headerName_customHeaders_ne (by decide)) .empty

/-- Before signing it is the host that decides. -/
theorem all_sendable_unsigned_iff :
    (∀ e ∈ (unsigned a u now).entries, isSendableName e.1 && isSendableValue e.2)
      ↔ isSendableValue (trimmed (hostHeader u)) = true := by
  constructor
  · intro h
    have hhost := h _ (Index.mem_entries_of_get? get?_unsigned_host)
    exact (Bool.and_eq_true_iff.1 hhost).2
  · intro hhost e he
    obtain ⟨hname, hvalue⟩ := mem_entries_unsigned he
    rw [(isSendableName_of_mem_allNames hname).1, Bool.true_and]
    rcases hvalue with hvalue | hvalue
    · rw [hvalue]
      exact hhost
    · exact hvalue

/-- What stands in the header that carries the signature, beside visible
text, is the access key and the region. -/
theorem isSendableValue_authorization {accessKey region canonical secretKey : String} :
    isSendableValue (authorization accessKey (scope now.basicDate region "s3")
        (signedHeaders (unsigned a u now))
        (signature secretKey now region "s3" canonical))
      = (isSendableValue accessKey && isSendableValue region) := by
  have hdate : isSendableValue now.basicDate = true := by
    refine isSendableValue_of_isVisible fun c hc => ?_
    rcases Time.mem_basicDate hc with h | rfl | rfl
    · exact isVisible_of_isDigit h
    · decide
    · decide
  have hnames : isSendableValue (signedHeaders (unsigned a u now)) = true := by
    refine isSendableValue_intercalate (by decide) fun n hn => ?_
    obtain ⟨e, he, rfl⟩ := List.mem_map.1 hn
    exact (isSendableName_of_mem_allNames (mem_entries_unsigned he).1).2
  have hhex : isSendableValue (signature secretKey now region "s3" canonical) = true :=
    isSendableValue_of_isVisible fun c hc => isVisible_of_mem_hex hc
  have hfirst : isSendableValue "AWS4-HMAC-SHA256 Credential=" = true := by decide
  have hslash : isSendableValue "/" = true := by decide
  have hmiddle : isSendableValue "/s3/aws4_request, SignedHeaders=" = true := by decide
  have hlast : isSendableValue ", Signature=" = true := by decide
  rw [authorization_eq]
  simp only [isSendableValue_append, hdate, hnames, hhex, hfirst, hslash, hmiddle, hlast,
    Bool.true_and, Bool.and_true]

end BucketAcl.SigV4

namespace BucketAcl

open Http SigV4

-- =========================================================== requests

/-- What a handle puts into the headers of its requests to an endpoint
can be sent. -/
def Handle.IsSendable (h : Handle) (e : Url) : Prop :=
  isSendableValue (Text.trimmed (hostHeader e)) = true
    ∧ (h.isAnonymous = false → isSendableValue h.credentials.accessKey = true
      ∧ isSendableValue (signingRegion h) = true)

/-- A request can be sent if its handle lets it, whatever it asks for. -/
theorem Action.isSendable_iff {a : Action} {h : Handle} {now : Time.Instant} {r : Request}
    {e : Url} (hr : a.request h now = .ok r) (he : h.endpoint = .ok e) :
    r.isSendable = true ↔ h.IsSendable e := by
  obtain ⟨e', he', rfl⟩ := request_eq hr
  rw [he] at he'
  cases he'
  have hhost : hostHeader (a.url e) = hostHeader e := hostHeader_url a e
  have hunsigned : (∀ x ∈ (unsigned a (a.url e) now).entries,
      isSendableName x.1 && isSendableValue x.2)
        ↔ isSendableValue (Text.trimmed (hostHeader (a.url e))) = true := all_sendable_unsigned_iff
  unfold Request.isSendable Handle.IsSendable
  rw [List.all_eq_true, ← hhost, ← hunsigned]
  cases hs : h.isAnonymous with
  | true =>
      have hsign : ({ handle := h, now } : Signer).sign .empty a.method.name (a.url e) a.payload
          a.customHeaders = unsigned a (a.url e) now := by
        unfold Signer.sign
        rw [hs]
        rfl
      rw [hsign]
      simp
  | false =>
      rw [sign_eq hs, Index.forall_mem_insert_iff get?_unsigned_authorization]
      dsimp only
      rw [isSendableValue_authorization]
      simp only [(isSendableName_of_mem_allNames (List.mem_cons_self ..)).1, Bool.true_and,
        Bool.and_eq_true, true_implies]
      exact and_comm

end BucketAcl
