/-
The calls that take one request. Each of them carries out one action and
looks at the reply once it is granted, so what becomes of the request is
the same for all: none is sent where there is no bucket, no endpoint or a
header that cannot be sent, and else exactly one.

Main statement: `outcome_singleCall`.
-/
import BucketAcl.Proofs.Call.Run
import BucketAcl.Proofs.Metadata

namespace BucketAcl

-- ============================================================ the calls

/-- The calls that take one request, by what they give. A policy is put
as its document. -/
inductive SingleCall : Type → Type where
  | objectAclText (key : String) : SingleCall String
  | bucketAclText : SingleCall String
  | bucketAcl : SingleCall Policy
  | objectAcl (key : String) (versionId : Option String) : SingleCall Policy
  | putObjectAcl (key : String) (acl : AclBody) : SingleCall Unit
  | putVersionAcl (key : String) (acl : AclBody) (versionId : Option String) : SingleCall Unit
  | putBucketAcl (acl : AclBody) : SingleCall Unit
  | objectHeaders (key : String) (versionId : Option String) :
      SingleCall (Index (List String))

namespace SingleCall

/-- The call, for a handle and a time. -/
def call {α : Type} (h : Handle) (now : Time.Instant) : SingleCall α → Call α
  | objectAclText key => h.getObjectAclText now key
  | bucketAclText => h.getBucketAclText now
  | bucketAcl => h.getBucketAcl now
  | objectAcl key versionId => h.getPolicy now (.getObjectAcl key versionId)
  | putObjectAcl key acl => h.putObjectAcl now key acl
  | putVersionAcl key acl versionId => h.put now (.putObjectAcl key acl versionId)
  | putBucketAcl acl => h.putBucketAcl now acl
  | objectHeaders key versionId => h.headObject now key versionId

/-- The action that is carried out. -/
def action {α : Type} : SingleCall α → Action
  | objectAclText key => .getObjectAcl key none
  | bucketAclText | bucketAcl => .getBucketAcl
  | objectAcl key versionId => .getObjectAcl key versionId
  | putObjectAcl key acl => .putObjectAcl key acl none
  | putVersionAcl key acl versionId => .putObjectAcl key acl versionId
  | putBucketAcl acl => .putBucketAcl acl
  | objectHeaders key versionId => .headObject key versionId

/-- The key that the call was made with, if it is about an object. -/
def key? {α : Type} : SingleCall α → Option String
  | bucketAclText | bucketAcl | putBucketAcl _ => none
  | objectAclText key | objectAcl key _ | putObjectAcl key _ | putVersionAcl key _ _
  | objectHeaders key _ => some key

/-- What a call makes of the reply that grants it: of a document its text
or the policy in it, of headers the values of each name that has any. -/
def Reads {α : Type} (p : Http.Reply) : SingleCall α → Except CallFault α → Prop
  | objectAclText _, o | bucketAclText, o => o = .ok (Text.Utf8.lossy p.body)
  | bucketAcl, o | objectAcl _ _, o =>
    o = (Policy.ofXml (Text.Utf8.lossy p.body)).mapError .document
  | putObjectAcl _ _, o | putVersionAcl _ _ _, o | putBucketAcl _, o => o = .ok ()
  | objectHeaders _ _, o => ∃ headers, o = .ok headers
    ∧ (∀ name, headers.get? name = Index.present (p.values name))
    ∧ (p.IsLower → ∀ name ∈ headers.names, ObjectInfo.lowerName name = name)

end SingleCall

namespace Call

open Http

variable {α : Type} {h : Handle} {now : Time.Instant} {n : Network}

-- ======================================================== what is read

/-- A call is its action, and a look at the reply that was granted. -/
theorem outcome_call_eq (c : SingleCall α) (h : Handle) (now : Time.Instant) (n : Network) :
    ∃ f : Reply → Except CallFault α, (∀ p, c.Reads p (f p))
      ∧ outcome (c.call h now) n
        = ((outcome (c.action.perform h now) n).1.bind f,
          (outcome (c.action.perform h now) n).2) := by
  have hmap {β γ : Type} (x : Except CallFault β) (g : β → γ) :
      x.map g = x.bind fun b => .ok (g b) := by
    cases x <;> rfl
  have htext (a : Action) : outcome (h.getText now a) n
      = ((outcome (a.perform h now) n).1.bind fun p => .ok p.text,
        (outcome (a.perform h now) n).2) := by
    rw [← hmap]
    exact outcome_map (a.perform h now) Reply.text n
  have hpolicy (a : Action) : outcome (h.getPolicy now a) n
      = ((outcome (a.perform h now) n).1.bind fun p => (Policy.ofXml p.text).mapError .document,
        (outcome (a.perform h now) n).2) := outcome_getPolicy a n
  have hput (a : Action) : outcome (h.put now a) n
      = ((outcome (a.perform h now) n).1.bind fun _ => .ok (),
        (outcome (a.perform h now) n).2) := by
    rw [← hmap]
    exact outcome_map (a.perform h now) (fun _ => ()) n
  cases c with
  | objectAclText key => exact ⟨_, fun p => rfl, htext _⟩
  | bucketAclText => exact ⟨_, fun p => rfl, htext _⟩
  | bucketAcl => exact ⟨_, fun p => rfl, hpolicy _⟩
  | objectAcl key versionId => exact ⟨_, fun p => rfl, hpolicy _⟩
  | putObjectAcl key acl => exact ⟨_, fun p => rfl, hput _⟩
  | putVersionAcl key acl versionId => exact ⟨_, fun p => rfl, hput _⟩
  | putBucketAcl acl => exact ⟨_, fun p => rfl, hput _⟩
  | objectHeaders key versionId =>
      refine ⟨fun p => .ok p.headerMap, fun p => ⟨p.headerMap, rfl, p.get?_headerMap, ?_⟩, ?_⟩
      · exact fun hp name hname => Reply.lowerName_of_mem_headerMap hp hname
      · rw [← hmap]
        exact outcome_headObject key versionId n

/-- What fails before anything is sent fails the call. -/
theorem outcome_call_of_error {c : SingleCall α} {f : CallFault}
    (hp : outcome (c.action.perform h now) n = (.error f, n)) :
    outcome (c.call h now) n = (.error f, n) := by
  obtain ⟨g, -, ho⟩ := outcome_call_eq c h now n
  rw [ho, hp]
  rfl

theorem key?_action (c : SingleCall α) : c.action.key? = c.key? := by
  cases c <;> rfl

-- ========================================================== what fails

/-- An endpoint that is no URL is what the fault names. -/
theorem eq_invalidEndpoint {f : HandleFault} (he : h.endpoint = .error f) :
    ∃ cause, f = .invalidEndpoint h.region.endpoint cause := by
  unfold Handle.endpoint Handle.service at he
  cases hp : Url.parse (Handle.serviceText h.region.endpoint) with
  | ok u =>
      rw [hp] at he
      cases he
  | error cause =>
      rw [hp] at he
      cases he
      exact ⟨cause, rfl⟩

/-- A refusal names the status, and what the request was about. -/
theorem ofReply_names (p : Reply) (bucket : String) (key : Option String) :
    (Refusal.ofReply p bucket key).status = p.status
      ∧ (Refusal.ofReply p bucket key).bucket = bucket
      ∧ (Refusal.ofReply p bucket key).key = key := by
  unfold Refusal.ofReply
  dsimp only
  split
  · exact ⟨rfl, rfl, rfl⟩
  · split
    · exact ⟨rfl, rfl, rfl⟩
    · exact ⟨rfl, rfl, rfl⟩

-- ============================================================= outcome

/-- A call that takes one request, whatever comes in. Without a bucket or
an endpoint, or where a header cannot be sent, nothing is sent. Else the
one request of its action is sent, and at most one reply is used up: the
call reads it if it grants the request, and if it does not the fault
names its status, the bucket and the key of the call. -/
theorem outcome_singleCall (h : Handle) (now : Time.Instant) (c : SingleCall α)
    (script : List Reply) :
    let o := outcome (c.call h now) { replies := script }
    match h.bucket, h.endpoint with
    | none, _ => o = (.error (.handle .bucketMissing), { replies := script })
    | some _, .error _ => ∃ cause,
        o = (.error (.handle (.invalidEndpoint h.region.endpoint cause)), { replies := script })
    | some bucket, .ok _ => ∃ r, c.action.request h now = .ok r
        ∧ if r.isSendable then
            o.2 = { replies := script.tail, sent := [r] }
              ∧ match script with
                | [] => o.1 = .error (.unanswered r.url)
                | p :: _ =>
                  if p.status.isSuccess then c.Reads (p.to r) o.1
                  else ∃ refusal, o.1 = .error (.refused refusal)
                    ∧ refusal = .ofReply (p.to r) bucket c.key?
                    ∧ refusal.status = p.status ∧ refusal.bucket = bucket
                    ∧ refusal.key = c.key?
          else o = (.error .unsendableHeader, { replies := script }) := by
  intro o
  cases hb : h.bucket with
  | none => exact outcome_call_of_error (outcome_perform_of_no_bucket hb _)
  | some bucket =>
      cases he : h.endpoint with
      | error f =>
          obtain ⟨cause, rfl⟩ := eq_invalidEndpoint he
          exact ⟨cause, outcome_call_of_error
            (outcome_perform_of_fault hb (Action.request_of_fault he c.action now) _)⟩
      | ok e =>
          obtain ⟨r, hr, -⟩ := Action.exists_request he c.action now
          refine ⟨r, hr, ?_⟩
          by_cases hs : r.isSendable = true
          · rw [if_pos hs]
            obtain ⟨f, hf, ho⟩ := outcome_call_eq c h now { replies := script }
            have ho : o = _ := ho
            rw [outcome_perform_sent hb hr hs rfl] at ho
            rw [ho, key?_action]
            refine ⟨rfl, ?_⟩
            cases script with
            | nil => rfl
            | cons p rest =>
                dsimp only
                by_cases hp : p.status.isSuccess = true
                · rw [if_pos hp, if_pos hp]
                  exact hf (p.to r)
                · obtain ⟨hstatus, hbucket, hkey⟩ := ofReply_names (p.to r) bucket c.key?
                  rw [status_to] at hstatus
                  rw [if_neg hp, if_neg hp]
                  exact ⟨_, rfl, rfl, hstatus, hbucket, hkey⟩
          · rw [if_neg hs]
            exact outcome_call_of_error
              (outcome_perform_of_not_sendable hb hr (Bool.eq_false_iff.2 hs) _)

end Call

end BucketAcl
