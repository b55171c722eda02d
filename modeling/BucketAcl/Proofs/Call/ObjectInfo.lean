/-
What is learnt of an object, and what is sent for it, from any replies:
the policy is asked for first, the headers only where it was granted and
could be read, and all is known or nothing.

Main statement: `getObjectAcl_all_or_nothing`.
-/
import BucketAcl.Proofs.Metadata
import BucketAcl.Proofs.Sendable

namespace BucketAcl.Call

open Http

variable {h : Handle} {now later : Time.Instant} {a : Action} {bucket key : String} {r : Request}

-- ======================================================= granted replies

/-- The reply to a request about an object, the first of those that will
come, where it is one of success. -/
def granted (bucket key : String) (r : Request) : List Reply → Except CallFault Reply
  | [] => .error (.unanswered r.url)
  | p :: _ =>
    if p.status.isSuccess then .ok (p.to r)
    else .error (.refused (.ofReply (p.to r) bucket (some key)))

/-- An action on an object gives the reply that was granted. -/
theorem outcome_perform_granted (hb : h.bucket = some bucket) (hk : a.key? = some key)
    (hr : a.request h now = .ok r) (hs : r.isSendable = true) {n : Network}
    (hn : n.isReached = true) :
    outcome (a.perform h now) n = (granted bucket key r n.replies, after n r) := by
  rw [outcome_perform_sent hb hr hs hn, hk]
  cases n.replies with
  | nil => rfl
  | cons p rest => rfl

-- ===================================================== the two requests

/-- The two requests about an object at the endpoint of a handle, each at
a time of its own. -/
structure IsInquiry (h : Handle) (now later : Time.Instant) (key : String) (e : Url)
    (get head : Request) : Prop where
  get_eq : (Action.getObjectAcl key none).request h now = .ok get
  head_eq : (Action.headObject key none).request h later = .ok head
  get_method : get.method = .get
  head_method : head.method = .head
  /-- Both ask for the object of the key. -/
  path_eq : get.url.path = ((Action.keyPath key).foldl Url.pushSegment e).path
  same_path : head.url.path = get.url.path
  /-- Only the first asks for its policy. -/
  get_query : get.url.queryPairs = e.queryPairs ++ [("acl".toList, [])]
  head_query : head.url.queryPairs = e.queryPairs

theorem exists_isInquiry {e : Url} (he : h.endpoint = .ok e) (now later : Time.Instant)
    (key : String) : ∃ get head, IsInquiry h now later key e get head := by
  obtain ⟨get, hget, hgurl⟩ := Action.exists_request he (.getObjectAcl key none) now
  obtain ⟨head, hhead, hhurl⟩ := Action.exists_request he (.headObject key none) later
  refine ⟨get, head, hget, hhead, ?_, ?_, ?_, ?_, ?_, ?_⟩
  · obtain ⟨-, -, rfl⟩ := Action.request_eq hget
    rfl
  · obtain ⟨-, -, rfl⟩ := Action.request_eq hhead
    rfl
  · rw [hgurl]
    rfl
  · rw [hgurl, hhurl]
    rfl
  · rw [hgurl, Action.queryPairs_url]
    rfl
  · rw [hhurl, Action.queryPairs_url]
    exact List.append_nil _

/-- Both can be sent, or none. -/
theorem IsInquiry.isSendable_head {e : Url} {get head : Request}
    (hi : IsInquiry h now later key e get head) (he : h.endpoint = .ok e)
    (hs : get.isSendable = true) : head.isSendable = true :=
  (Action.isSendable_iff hi.head_eq he).2 ((Action.isSendable_iff hi.get_eq he).1 hs)

-- ============================================================ the call

/-- The policy that a request for it is granted. -/
def grantedPolicy (bucket key : String) (get : Request) (script : List Reply) :
    Except CallFault Policy :=
  (granted bucket key get script).bind fun p => (Policy.ofXml p.text).mapError .document

/-- Where the policy is not granted nothing more is asked, and where it
is the headers are. -/
theorem outcome_getObjectAcl {e : Url} {get head : Request} (hb : h.bucket = some bucket)
    (he : h.endpoint = .ok e) (hi : IsInquiry h now later key e get head)
    (hs : get.isSendable = true) {n : Network} (hn : n.isReached = true) :
    outcome (h.getObjectAcl now key later) n =
      match grantedPolicy bucket key get n.replies with
      | .error f => (.error f, after n get)
      | .ok p => ((granted bucket key head n.replies.tail).map
          fun r => (ObjectInfo.ofHeaders key r.headerMap).merge p, after (after n get) head) := by
  have hget := outcome_perform_granted hb rfl hi.get_eq hs hn
  have hhead := outcome_perform_granted (n := after n get) hb rfl hi.head_eq
    (hi.isSendable_head he hs) hn
  unfold Handle.getObjectAcl grantedPolicy
  rw [outcome_bind, outcome_getPolicy, hget]
  dsimp only
  cases (granted bucket key get n.replies).bind
      fun p => (Policy.ofXml p.text).mapError CallFault.document with
  | error f => rfl
  | ok p =>
      dsimp only
      rw [outcome_bind, outcome_headObject, hhead]
      dsimp only [after]
      cases granted bucket key head n.replies.tail with
      | error f => rfl
      | ok r => rfl

/-- What fails before anything is sent fails the call. -/
theorem outcome_getObjectAcl_of_error {f : CallFault} {n : Network}
    (hp : outcome ((Action.getObjectAcl key none).perform h now) n = (.error f, n)) :
    outcome (h.getObjectAcl now key later) n = (.error f, n) := by
  unfold Handle.getObjectAcl
  rw [outcome_bind, outcome_getPolicy, hp]
  rfl

/-- What is granted has its names as they came in. -/
theorem isLower_of_granted {script : List Reply} (hscript : ∀ q ∈ script, q.IsLower) {p : Reply}
    (hp : granted bucket key r script = .ok p) : p.IsLower := by
  cases script with
  | nil => cases hp
  | cons q rest =>
      have hq := hscript q (List.mem_cons_self ..)
      rw [granted] at hp
      split at hp
      · cases hp
        unfold Reply.to
        split <;> exact hq
      · cases hp

/-- A call for what is known of an object, whatever comes in, and
whenever its two requests are made. Without a bucket or an endpoint, or
where a header cannot be sent, nothing is sent. Else the policy is asked
for, and the headers of the same path exactly where a policy was granted.
What the call gives shows both, and else it fails as the first of these
steps does. -/
theorem getObjectAcl_all_or_nothing (h : Handle) (now later : Time.Instant) (key : String)
    (arrivals : List (Nat × List (List UInt8 × List UInt8) × List UInt8)) :
    let script := arrivals.map fun w => Reply.ofWire w.1 w.2.1 w.2.2
    let o := outcome (h.getObjectAcl now key later) { replies := script }
    match h.bucket, h.endpoint with
    | none, _ => o = (.error (.handle .bucketMissing), { replies := script })
    | some _, .error f => o = (.error (.handle f), { replies := script })
    | some bucket, .ok e => ∃ get head, IsInquiry h now later key e get head
        ∧ if get.isSendable then
            let policy := grantedPolicy bucket key get script
            o.2.sent = (if policy.isOk then [get, head] else [get])
              ∧ match policy, granted bucket key head script.tail with
                | .error f, _ => o.1 = .error f
                | .ok _, .error f => o.1 = .error f
                | .ok p, .ok r => ∃ info, o.1 = .ok info ∧ info.Shows p r
          else o = (.error .unsendableHeader, { replies := script }) := by
  intro script o
  have hlower : ∀ q ∈ script, q.IsLower := by
    intro q hq
    obtain ⟨w, -, rfl⟩ := List.mem_map.1 hq
    exact Reply.isLower_ofWire w.1 w.2.1 w.2.2
  cases hb : h.bucket with
  | none => exact outcome_getObjectAcl_of_error (outcome_perform_of_no_bucket hb _)
  | some bucket =>
      cases he : h.endpoint with
      | error f =>
          have hreq : (Action.getObjectAcl key none).request h now = .error f := by
            unfold Action.request Action.sign
            rw [he]
            rfl
          exact outcome_getObjectAcl_of_error (outcome_perform_of_fault hb hreq _)
      | ok e =>
          obtain ⟨get, head, hi⟩ := exists_isInquiry he now later key
          refine ⟨get, head, hi, ?_⟩
          by_cases hs : get.isSendable = true
          · rw [if_pos hs]
            have ho : o = _ := outcome_getObjectAcl (n := { replies := script }) hb he hi hs rfl
            rw [ho]
            cases grantedPolicy bucket key get script with
            | error f => exact ⟨rfl, rfl⟩
            | ok p =>
                cases hr : granted bucket key head script.tail with
                | error f => exact ⟨rfl, rfl⟩
                | ok r =>
                    have hr' := isLower_of_granted
                      (fun q hq => hlower q (List.mem_of_mem_tail hq)) hr
                    exact ⟨rfl, _, rfl, ObjectInfo.shows_merge_ofHeaders hr' key p⟩
          · rw [if_neg hs]
            exact outcome_getObjectAcl_of_error
              (outcome_perform_of_not_sendable hb hi.get_eq (Bool.eq_false_iff.2 hs) _)

end BucketAcl.Call
