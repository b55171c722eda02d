/-
What is sent by the calls that put something. The headers of such a
request describe the body that goes with it, by its length and two
digests, and a request that is signed is signed with all of them.

Main statement: `put_describes_body`.
-/
import BucketAcl.Proofs.Call.Single
import BucketAcl.Proofs.SigV4.Secret

namespace BucketAcl

open Text Digest

-- ======================================================== what is sent

/-- The headers of a request describe its body. -/
structure Http.Request.DescribesBody (r : Http.Request) : Prop where
  length_eq : r.headers.get? "content-length" = some (toString (Utf8.bytes r.body).length)
  md5_eq : r.headers.get? "content-md5" = some (Base64.text (Md5.hash (Utf8.bytes r.body)))
  sha256_eq : r.headers.get? "x-amz-content-sha256"
    = some (Hex.text (Sha256.hash (Utf8.bytes r.body)))

/-- A canned list is sent by its label and without a body, and a document
as the body as it is. -/
def AclBody.IsSentBy (r : Http.Request) : AclBody → Prop
  | canned acl => r.body = "" ∧ r.headers.get? "x-amz-acl" = some acl.label
  | xml document => r.body = document ∧ r.headers.get? "x-amz-acl" = none

/-- The names of the headers that describe what is put. -/
def descriptiveNames : List String :=
  ["content-length", "content-md5", "x-amz-content-sha256", "x-amz-acl"]

/-- A request of a handle is signed, and its signature lists the headers
of these names. -/
def Http.Request.IsSignedFor (r : Http.Request) (h : Handle) (now : Time.Instant)
    (names : List String) : Prop :=
  ∃ signature, SigV4.IsSignature signature ∧ r.headers.get? "authorization"
    = some ("AWS4-HMAC-SHA256 Credential=" ++ h.credentials.accessKey ++ "/" ++ now.basicDate ++ "/"
      ++ SigV4.signingRegion h ++ "/s3/aws4_request, SignedHeaders=" ++ ";".intercalate names
      ++ ", Signature=" ++ signature)

namespace SigV4

variable {h : Handle} {now : Time.Instant} {a : Action} {acl : AclBody} {r : Http.Request}

-- ========================================================= the headers

/-- Of a body that is put the length and both digests are known. -/
theorem payload_of_acl (hacl : a.acl? = some acl) :
    a.payload.length = some (Utf8.bytes a.body).length
      ∧ a.payload.md5 = some (Md5.hash (Utf8.bytes a.body)) := by
  rw [Action.body_of_acl hacl]
  unfold Action.payload
  rw [hacl]
  exact ⟨rfl, rfl⟩

theorem body_of_request (hr : a.request h now = .ok r) : r.body = a.body := by
  obtain ⟨e, -, rfl⟩ := Action.request_eq hr
  rfl

/-- What is set on every request of a payload is sent as it is, if it
is visible. -/
theorem get?_headers_of_own (hr : a.request h now = .ok r) {name value : String}
    (hmem : (name, value) ∈ ownEntries r.url now a.payload) (hne : name ≠ "x-amz-acl")
    (hvisible : ∀ c ∈ value.toList, IsVisible c) : r.headers.get? name = some value := by
  have hname : name ≠ "authorization" := by
    rintro rfl
    have hno : headerName "authorization" ∉ ownNames := by decide
    have hown := headerName_mem_ownNames hmem
    exact hno hown
  rw [Received.get?_headers_of_request hr hname, unsigned,
    get?_requestHeaders_of_mem hmem (Action.headerName_customHeaders_ne hne),
    trimmed_of_isVisible hvisible]

theorem describesBody_of_request (hr : a.request h now = .ok r) (hacl : a.acl? = some acl) :
    r.DescribesBody := by
  obtain ⟨hlength, hmd5⟩ := payload_of_acl hacl
  refine ⟨?length, ?md5, ?sha256⟩
  case length =>
    refine get?_headers_of_own hr ?_ (by decide) fun c => isVisible_of_mem_toString
    rw [body_of_request hr]
    simp [ownEntries, hlength]
  case md5 =>
    refine get?_headers_of_own hr ?_ (by decide) fun c => isVisible_of_mem_base64
    rw [body_of_request hr]
    simp [ownEntries, hmd5]
  case sha256 =>
    refine get?_headers_of_own hr ?_ (by decide) fun c => isVisible_of_mem_hex
    rw [body_of_request hr, ← Action.payload_digest]
    simp [ownEntries]

/-- The label of a canned list is sent in its header, which no document
has. -/
theorem isSentBy_of_request (hr : a.request h now = .ok r) (hacl : a.acl? = some acl) :
    acl.IsSentBy r := by
  have hbody : r.body = acl.body := (body_of_request hr).trans (Action.body_of_acl hacl)
  have hcustom : a.customHeaders = acl.headers := by
    unfold Action.customHeaders Action.headers?
    rw [hacl]
    cases acl <;> rfl
  have hheader := Received.get?_headers_of_request hr (show "x-amz-acl" ≠ "authorization" by decide)
  rw [unsigned, hcustom] at hheader
  cases acl with
  | canned label =>
      have hset : requestHeaders .empty r.url now a.payload (AclBody.canned label).headers
          = setHeader (setHeaders .empty (ownEntries r.url now a.payload)) "x-amz-acl"
            label.label := setHeaders_concat ..
      refine ⟨hbody, hheader.trans ?_⟩
      rw [hset, get?_setHeader, if_pos (by decide),
        trimmed_of_isVisible fun c => isVisible_of_mem_label]
  | xml document =>
      have hno : ∀ e ∈ (AclBody.xml document).headers.entries, headerName e.1 ≠ "x-amz-acl" :=
        List.forall_mem_nil _
      exact ⟨hbody, hheader.trans (get?_requestHeaders_eq_none (by decide) hno)⟩

/-- The signature lists all headers but its own. -/
theorem isSignedFor_of_request (hr : a.request h now = .ok r) (hs : h.isAnonymous = false) :
    r.IsSignedFor h now (unsigned a r.url now).names := by
  refine ⟨signature h.credentials.secretKey now (signingRegion h) "s3"
    (SigV4.canonicalRequest r.method.name r.url (unsigned a r.url now)
      (Hex.text (Sha256.hash (Utf8.bytes r.body)))), isSignature_signature .., ?_⟩
  conv => lhs; rw [Received.headers_of_request hs hr]
  rw [Index.get?_insert, if_pos rfl, authorization_eq]
  rfl

end SigV4

namespace Call

open Http

variable {α : Type} {h : Handle} {now : Time.Instant} {r : Request}

-- =========================================================== the calls

/-- A call that takes one request sends the one of its action. -/
theorem request_of_mem_sent (c : SingleCall α) {script : List Reply}
    (hr : r ∈ (outcome (c.call h now) { replies := script }).2.sent) :
    c.action.request h now = .ok r := by
  obtain ⟨f, -, ho⟩ := outcome_call_eq c h now { replies := script }
  have hsends : Sends (fun r => c.action.request h now = .ok r ∧ r.isSendable = true)
      (c.action.perform h now) := sends_own c.action
  obtain ⟨rs, hrs, hown⟩ := hsends { replies := script }
  rw [ho, hrs] at hr
  exact (hown r hr).1

theorem mem_sent_call (c : SingleCall α) {bucket : String} (hb : h.bucket = some bucket)
    (hr : c.action.request h now = .ok r) (hs : r.isSendable = true) {n : Network}
    (hn : n.isReached = true) : r ∈ (outcome (c.call h now) n).2.sent := by
  obtain ⟨f, -, ho⟩ := outcome_call_eq c h now n
  rw [ho]
  exact mem_sent_perform hb hr hs hn

/-- What is sent by a call that puts something, on the bucket or on any
version of an object. The headers give the length and the digests of the
very body that is sent: nothing for a canned list, which goes by its
label, and a document or that of a policy as it is. A request that is
signed lists those of these headers that it has. -/
theorem put_describes_body {c : SingleCall α} {acl : AclBody} (hacl : c.action.acl? = some acl)
    {script : List Reply} (hr : r ∈ (outcome (c.call h now) { replies := script }).2.sent) :
    r.DescribesBody ∧ acl.IsSentBy r ∧ (∀ p, acl = .ofPolicy p → r.body = p.toXml)
      ∧ (h.isAnonymous = false → ∃ names, r.IsSignedFor h now names
        ∧ ∀ name ∈ descriptiveNames, name ∈ r.headers.names → name ∈ names) := by
  have hreq := request_of_mem_sent c hr
  refine ⟨SigV4.describesBody_of_request hreq hacl, SigV4.isSentBy_of_request hreq hacl, ?_, ?_⟩
  · rintro p rfl
    exact (SigV4.isSentBy_of_request hreq hacl).1
  · intro hs
    refine ⟨_, SigV4.isSignedFor_of_request hreq hs, fun name hname hmem => ?_⟩
    have hne : name ≠ "authorization" := by
      rintro rfl
      exact absurd hname (by decide)
    rw [Index.mem_names_iff] at hmem ⊢
    rw [← SigV4.Received.get?_headers_of_request hreq hne]
    exact hmem

/-- A document with a letter of two bytes is put on a version of an
object. -/
theorem put_describes_body_queriedHandle :
    let c : SingleCall Unit := .putVersionAcl "key" (.xml "<é/>") (some "1")
    c.action.acl? = some (.xml "<é/>") ∧ SigV4.queriedHandle.isAnonymous = false
      ∧ ∃ r ∈ (outcome (c.call SigV4.queriedHandle { seconds := 0 }) { replies := [] }).2.sent,
        r.body = "<é/>" ∧ r.headers.get? "content-length" = some "5"
          ∧ r.headers.get? "x-amz-acl" = none
          ∧ ∃ names, r.IsSignedFor SigV4.queriedHandle { seconds := 0 } names
            ∧ "content-length" ∈ names := by
  intro c
  obtain ⟨-, r, hr, -, hsendable, -⟩ :=
    SigV4.exists_request_queriedHandle c.action { seconds := 0 }
  have hbucket : SigV4.queriedHandle.bucket = some "examplebucket" := rfl
  have hmem : r ∈ (outcome (c.call SigV4.queriedHandle { seconds := 0 })
      { replies := [] }).2.sent := mem_sent_call c hbucket hr hsendable rfl
  have hacl : c.action.acl? = some (.xml "<é/>") := rfl
  obtain ⟨hdescribes, ⟨hbody, hlabel⟩, -, hsigned⟩ := put_describes_body hacl hmem
  obtain ⟨names, hnames, hall⟩ := hsigned rfl
  have hlength : r.headers.get? "content-length" = some "5" := by
    rw [hdescribes.length_eq, hbody]
    decide
  refine ⟨rfl, rfl, r, hmem, hbody, hlength, hlabel, names, hnames, hall _ (by decide) ?_⟩
  rw [Index.mem_names_iff, hlength]
  rfl

end Call

end BucketAcl
