/-
What the credentials of a handle have a part in. The secret key is read
for the digits of signatures and for nothing else: runs with two secret
keys give the same, and send the same requests up to these digits. An
anonymous handle reads neither half of its key pair.

Main statement: `call_hides_credentials`.
-/
import BucketAcl.Proofs.Call.TwoRuns
import BucketAcl.Proofs.SigV4.Sent

namespace BucketAcl.SigV4

open Http Text

-- ============================================================== requests

/-- The digits of a signature. -/
def IsSignature (s : String) : Prop :=
  s.length = 64 ∧ ∀ c ∈ s.toList, c ∈ "0123456789abcdef".toList

/-- Two entries of one name, with one value unless they are those of
signed requests. Then the values may differ in the digits that they end
with. -/
def SameUnlessSigned (x y : String × String) : Prop :=
  x.1 = y.1 ∧ (x.2 = y.2 ∨ x.1 = "authorization" ∧ ∃ front s t,
    x.2 = front ++ ", Signature=" ++ s ∧ y.2 = front ++ ", Signature=" ++ t
      ∧ IsSignature s ∧ IsSignature t)

/-- Two requests that differ at most in the digits of their signatures. -/
structure SameButSignature (r t : Request) : Prop where
  method : r.method = t.method
  url : r.url = t.url
  body : r.body = t.body
  headers : List.Forall₂ SameUnlessSigned r.headers.entries t.headers.entries

theorem sameUnlessSigned_refl (x : String × String) : SameUnlessSigned x x := ⟨rfl, .inl rfl⟩

-- ============================================================ signatures

/-- A code of 32 bytes has 64 digits. -/
theorem isSignature_text {bs : List UInt8} (h : bs.length = 32) : IsSignature (Hex.text bs) := by
  constructor
  · rw [Hex.text, String.length_ofList, Hex.length_encode, h]
  · exact fun c => mem_digits_of_mem_hex

theorem isSignature_signature (secretKey : String) (now : Time.Instant)
    (region service canonical : String) :
    IsSignature (signature secretKey now region service canonical) := by
  unfold signature
  exact isSignature_text (Digest.Hmac.length_code _ _)

theorem sameUnlessSigned_authorization (accessKey scope names : String) {s t : String}
    (hs : IsSignature s) (ht : IsSignature t) :
    SameUnlessSigned ("authorization", authorization accessKey scope names s)
      ("authorization", authorization accessKey scope names t) := by
  refine ⟨rfl, .inr ⟨rfl, ?front, s, t, ?_, ?_, hs, ht⟩⟩
  case front =>
    exact "AWS4-HMAC-SHA256 Credential=" ++ accessKey ++ "/" ++ scope ++ ", SignedHeaders="
      ++ names
  · rfl
  · rfl

theorem IsSignature.isSendableValue {s : String} (h : IsSignature s) :
    isSendableValue s = true :=
  isSendableValue_of_isVisible fun c hc => isVisible_of_mem_digits (h.2 c hc)

/-- Which digits a signature has does not decide whether it can be
sent. -/
theorem SameUnlessSigned.isSendable {x y : String × String} (h : SameUnlessSigned x y) :
    (isSendableName x.1 && isSendableValue x.2) = (isSendableName y.1 && isSendableValue y.2) := by
  obtain ⟨hname, hvalue | ⟨-, front, s, t, hx, hy, hs, ht⟩⟩ := h
  · rw [hname, hvalue]
  · rw [hname, hx, hy, isSendableValue_append, isSendableValue_append _ t, hs.isSendableValue,
      ht.isSendableValue]

theorem isHidden_sameButSignature : Call.IsHidden SameButSignature where
  method h := h.method
  url h := h.url
  isSendable := by
    intro r t h
    have hall : ∀ {xs ys : List (String × String)}, List.Forall₂ SameUnlessSigned xs ys →
        xs.all (fun e => isSendableName e.1 && isSendableValue e.2)
          = ys.all fun e => isSendableName e.1 && isSendableValue e.2 := by
      intro xs ys hxy
      induction hxy with
      | nil => rfl
      | cons h _ ih => rw [List.all_cons, List.all_cons, h.isSendable, ih]
    exact hall h.headers

-- =============================================================== signing

/-- Two values under one name leave the other entries alike. -/
theorem forall₂_insert {R : String × String → String × String → Prop} (hR : ∀ x, R x x)
    {name v w : String} (h : R (name, v) (name, w)) (m : Index String) :
    List.Forall₂ R (m.insert name v).entries (m.insert name w).entries := by
  have hall : ∀ es : List (String × String), List.Forall₂ R
      (Index.alterEntries name (fun _ => v) es) (Index.alterEntries name (fun _ => w) es) := by
    intro es
    induction es with
    | nil => exact .cons h .nil
    | cons e r ih =>
        have hrest : List.Forall₂ R r r := List.forall₂_same.2 fun x _ => hR x
        unfold Index.alterEntries
        split
        · exact .cons h (.cons (hR e) hrest)
        · split
          · exact .cons h hrest
          · exact .cons (hR e) ih
  exact hall m.entries

section

variable {h k : Handle} {now : Time.Instant}

/-- Two handles that differ at most in their key pairs. -/
structure SameButKeys (h k : Handle) : Prop where
  region : h.region = k.region
  bucket : h.bucket = k.bucket
  isAnonymous : h.isAnonymous = k.isAnonymous

theorem SameButKeys.endpoint (hk : SameButKeys h k) : h.endpoint = k.endpoint := by
  unfold Handle.endpoint Handle.service
  rw [hk.region, hk.bucket]

theorem SameButKeys.signingRegion (hk : SameButKeys h k) : signingRegion h = signingRegion k := by
  unfold SigV4.signingRegion
  rw [hk.region]

/-- Whatever holds of the headers that two handles send with an action
relates their requests. -/
theorem relatedRequests {R : Request → Request → Prop} (hk : SameButKeys h k) (now : Time.Instant)
    (a : Action)
    (hR : ∀ u, R
      { method := a.method
        url := u
        headers := ({ handle := h, now } : Signer).sign .empty a.method.name u a.payload
          a.customHeaders
        body := a.body }
      { method := a.method
        url := u
        headers := ({ handle := k, now } : Signer).sign .empty a.method.name u a.payload
          a.customHeaders
        body := a.body }) :
    Call.RelatedRequests R h k now a := by
  have hendpoint := hk.endpoint
  cases he : h.endpoint with
  | error f =>
      rw [he] at hendpoint
      exact .inl ⟨f, Action.request_of_fault he a now,
        Action.request_of_fault hendpoint.symm a now⟩
  | ok e =>
      rw [he] at hendpoint
      exact .inr ⟨_, _, Action.request_of_endpoint he a now,
        Action.request_of_endpoint hendpoint.symm a now, hR (a.url e)⟩

/-- Headers that are signed with two secret keys. -/
theorem forall₂_sign (hk : SameButKeys h k)
    (hkey : h.credentials.accessKey = k.credentials.accessKey) (now : Time.Instant)
    (method : String) (a : Action) (u : Url) :
    List.Forall₂ SameUnlessSigned
      (({ handle := h, now } : Signer).sign .empty method u a.payload a.customHeaders).entries
      (({ handle := k, now } : Signer).sign .empty method u a.payload a.customHeaders).entries := by
  have hanonymous := hk.isAnonymous
  cases hs : h.isAnonymous with
  | true =>
      rw [hs] at hanonymous
      rw [sign_of_anonymous hs, sign_of_anonymous hanonymous.symm]
      exact List.forall₂_same.2 fun x _ => sameUnlessSigned_refl x
  | false =>
      rw [hs] at hanonymous
      rw [sign_eq hs, sign_eq hanonymous.symm, hk.signingRegion, hkey]
      apply forall₂_insert sameUnlessSigned_refl
      apply sameUnlessSigned_authorization
      · exact isSignature_signature _ _ _ _ _
      · exact isSignature_signature _ _ _ _ _

theorem relatedRequests_of_accessKey (hk : SameButKeys h k)
    (hkey : h.credentials.accessKey = k.credentials.accessKey) (a : Action) :
    Call.RelatedRequests SameButSignature h k now a :=
  relatedRequests hk now a fun u => ⟨rfl, rfl, rfl, forall₂_sign hk hkey now _ a u⟩

/-- Without a signature the key pair is not read. -/
theorem relatedRequests_of_anonymous (hk : SameButKeys h k) (hs : h.isAnonymous = true)
    (a : Action) : Call.RelatedRequests Eq h k now a := by
  refine relatedRequests hk now a fun u => ?_
  rw [sign_of_anonymous hs, sign_of_anonymous (hk.isAnonymous.symm.trans hs)]

theorem get?_authorization_of_anonymous (hs : h.isAnonymous = true) {a : Action} {r : Request}
    (hr : a.request h now = .ok r) : r.headers.get? "authorization" = none := by
  obtain ⟨e, -, rfl⟩ := Action.request_eq hr
  have hnone : (unsigned a (a.url e) now).get? "authorization" = none :=
    get?_unsigned_authorization
  rw [← sign_of_anonymous hs a.method.name] at hnone
  exact hnone

-- ======================================================= the main result

/-- Runs of a call by handles that differ in their key pairs. If only the
secret keys differ, both give the same and send as many requests, which
are the same up to the digits of their signatures. If the handles are
anonymous the runs are the same, and no request is signed. -/
theorem call_hides_credentials {α : Type} (c : LibraryCall α) (hk : SameButKeys h k)
    (now : Time.Instant) (script : List Reply) :
    (h.credentials.accessKey = k.credentials.accessKey →
      (c.run h now script).1 = (c.run k now script).1
        ∧ (c.run h now script).2.sent.length = (c.run k now script).2.sent.length
        ∧ List.Forall₂ SameButSignature (c.run h now script).2.sent (c.run k now script).2.sent)
    ∧ (h.isAnonymous = true → c.run h now script = c.run k now script
      ∧ ∀ r ∈ (c.run h now script).2.sent, r.headers.get? "authorization" = none) := by
  constructor
  · intro hkey
    have hrelated : Call.Related SameButSignature (c.call h now) (c.call k now) :=
      Call.related_call isHidden_sameButSignature hk.bucket
        (fun _ a => relatedRequests_of_accessKey hk hkey a) c
    obtain ⟨hvalue, hafter⟩ := hrelated.run script
    exact ⟨hvalue, hafter.sent.length_eq, hafter.sent⟩
  · intro hs
    have hrelated : Call.Related Eq (c.call h now) (c.call k now) :=
      Call.related_call Call.isHidden_eq hk.bucket
        (fun _ a => relatedRequests_of_anonymous hk hs a) c
    obtain ⟨hvalue, hafter⟩ := hrelated.run script
    refine ⟨Prod.ext hvalue hafter.eq, ?_⟩
    intro r hr
    obtain ⟨time, -, a, ha, -⟩ := c.isRequest_of_mem_sent hr
    exact get?_authorization_of_anonymous hs ha

end

/-- A handle with another secret key. -/
def rekeyedHandle : Handle :=
  { queriedHandle with credentials := { queriedHandle.credentials with secretKey := "other" } }

/-- A handle that signs nothing, with a key pair of its own. -/
def unsigningHandle (accessKey : String) : Handle :=
  { queriedHandle with credentials := { accessKey, secretKey := "" }, isAnonymous := true }

/-- A request is sent with either secret key, and the same one by two
handles that sign nothing. -/
theorem call_hides_credentials_queriedHandle :
    let c : LibraryCall Reply := .reply (.getObjectAcl "key" none)
    (∃ r, r ∈ (c.run queriedHandle { seconds := 0 } []).2.sent)
      ∧ SameButKeys queriedHandle rekeyedHandle
      ∧ queriedHandle.credentials.accessKey = rekeyedHandle.credentials.accessKey
      ∧ (c.run queriedHandle { seconds := 0 } []).1 = (c.run rekeyedHandle { seconds := 0 } []).1
      ∧ List.Forall₂ SameButSignature (c.run queriedHandle { seconds := 0 } []).2.sent
        (c.run rekeyedHandle { seconds := 0 } []).2.sent
      ∧ SameButKeys (unsigningHandle "one") (unsigningHandle "two")
      ∧ (unsigningHandle "one").isAnonymous = true
      ∧ c.run (unsigningHandle "one") { seconds := 0 } []
        = c.run (unsigningHandle "two") { seconds := 0 } [] := by
  intro c
  obtain ⟨-, r, hr, -, hsendable, -⟩ :=
    exists_request_queriedHandle (.getObjectAcl "key" none) { seconds := 0 }
  have hbucket : queriedHandle.bucket = some "examplebucket" := rfl
  have hsent : r ∈ (c.run queriedHandle { seconds := 0 } []).2.sent := by
    rw [LibraryCall.run, LibraryCall.call]
    exact Call.mem_sent_perform hbucket hr hsendable rfl
  have hkeys : SameButKeys queriedHandle rekeyedHandle := ⟨rfl, rfl, rfl⟩
  have hpairs : SameButKeys (unsigningHandle "one") (unsigningHandle "two") := ⟨rfl, rfl, rfl⟩
  obtain ⟨hvalue, -, hrequests⟩ := (call_hides_credentials c hkeys { seconds := 0 } []).1 rfl
  obtain ⟨hruns, -⟩ := (call_hides_credentials c hpairs { seconds := 0 } []).2 rfl
  exact ⟨⟨r, hsent⟩, hkeys, rfl, hvalue, hrequests, hpairs, rfl, hruns⟩

end BucketAcl.SigV4
