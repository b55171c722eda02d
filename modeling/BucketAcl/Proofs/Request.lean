/-
The request of an action: what its URL keeps of the URL of the bucket,
which headers the action adds to those of every request, and that the
digest which is signed is the one of the body which is sent.
-/
import BucketAcl.Action
import BucketAcl.Proofs.SigV4.Headers
import BucketAcl.Proofs.Url.Parts

namespace BucketAcl.Action

-- ============================================================ the URL

/-- What holds of the URL of the bucket and outlasts one more segment
and one more pair holds of the URL of an action. -/
theorem url_induction {P : Url → Prop} (hseg : ∀ u s, P u → P (u.pushSegment s))
    (hpair : ∀ u n v, P u → P (u.appendPair n v)) (a : Action) {e : Url} (he : P e) :
    P (a.url e) := by
  have hsegs : ∀ (ks : List String) (u : Url), P u → P (ks.foldl Url.pushSegment u) := by
    intro ks
    induction ks with
    | nil => exact fun u h => h
    | cons k r ih => exact fun u h => ih _ (hseg u k h)
  have hpairs : ∀ (ps : List (String × String)) (u : Url), P u →
      P (ps.foldl (fun u p => u.appendPair p.1 p.2) u) := by
    intro ps
    induction ps with
    | nil => exact fun u h => h
    | cons p r ih => exact fun u h => ih _ (hpair u p.1 p.2 h)
  exact hpairs _ _ (hsegs _ _ he)

theorem isService_url (a : Action) {e : Url} (he : Url.IsService e) : Url.IsService (a.url e) :=
  url_induction (fun _ s h => h.pushSegment s) (fun _ n v h => h.appendPair n v) a he

/-- An action asks whom the endpoint names. -/
theorem sameServer_url (a : Action) {e s : Url} (he : e.SameServer s) : (a.url e).SameServer s :=
  url_induction (P := (Url.SameServer · s)) (fun _ k h => h.pushSegment k)
    (fun _ n v h => h.appendPair n v) a he

theorem hostHeader_of_sameServer {u v : Url} (h : u.SameServer v) :
    SigV4.hostHeader u = SigV4.hostHeader v := by
  unfold SigV4.hostHeader Url.hostText Url.port?
  rw [h.authority]

theorem hostHeader_url (a : Action) (e : Url) :
    SigV4.hostHeader (a.url e) = SigV4.hostHeader e :=
  hostHeader_of_sameServer (sameServer_url a (.refl e))

theorem pushSegment_query (u : Url) (s : String) : (u.pushSegment s).query = u.query := by
  unfold Url.pushSegment
  split <;> rfl

theorem foldl_pushSegment_query (ks : List String) (u : Url) :
    (ks.foldl Url.pushSegment u).query = u.query := by
  induction ks generalizing u with
  | nil => rfl
  | cons k r ih => exact (ih _).trans (pushSegment_query u k)

/-- The pairs that an action adds to the query. -/
def addedPairs (a : Action) : List (List Char × List Char) :=
  (a.queryPairs?.getD []).map fun p => (p.1.toList, p.2.toList)

/-- The query of an action: the one of the endpoint, and the pairs that
the action adds. -/
theorem queryPairs_url (a : Action) (e : Url) :
    (a.url e).queryPairs = e.queryPairs ++ a.addedPairs := by
  have hpairs : ∀ (ps : List (String × String)) (u : Url),
      (ps.foldl (fun u p => u.appendPair p.1 p.2) u).queryPairs
        = u.queryPairs ++ ps.map fun p => (p.1.toList, p.2.toList) := by
    intro ps
    induction ps with
    | nil => exact fun u => (List.append_nil _).symm
    | cons p r ih =>
        intro u
        rw [List.foldl_cons, ih, Url.queryPairs_appendPair, List.append_assoc]
        rfl
  unfold url addedPairs
  rw [hpairs]
  unfold Url.queryPairs
  rw [foldl_pushSegment_query]

-- ======================================================== the request

/-- The headers that an action adds to those of every request. -/
def customHeaders (a : Action) : Index String := a.headers?.getD .empty

/-- An action adds no header but the one that names a canned list. -/
theorem name_of_mem_customHeaders {a : Action} {e : String × String}
    (h : e ∈ a.customHeaders.entries) : e.1 = "x-amz-acl" := by
  unfold customHeaders headers? at h
  split at h
  · rcases Index.name_of_mem_alterEntries h with h | h
    · exact h
    · cases h
  · cases h

theorem headerName_customHeaders_ne {a : Action} {name : String} (hne : name ≠ "x-amz-acl") :
    ∀ e ∈ a.customHeaders.entries, SigV4.headerName e.1 ≠ name := by
  intro e he heq
  rw [name_of_mem_customHeaders he] at heq
  exact hne heq.symm

/-- The body of the request of an action. -/
def body (a : Action) : String := (a.acl?.bind AclBody.document?).getD ""

/-- What is put is sent as it was digested. -/
theorem body_of_acl {a : Action} {acl : AclBody} (h : a.acl? = some acl) : a.body = acl.body := by
  unfold body
  rw [h]
  cases acl with
  | canned label => rfl
  | xml document => rfl

/-- The digest that is signed is the one of the body. -/
theorem payload_digest (a : Action) :
    a.payload.digest = Digest.Sha256.hash (Text.Utf8.bytes a.body) := by
  cases hacl : a.acl? with
  | none =>
      unfold payload body
      rw [hacl]
      rfl
  | some acl =>
      rw [body_of_acl hacl]
      unfold payload
      rw [hacl]

/-- A handle with an endpoint has a request of every action. -/
theorem request_of_endpoint {h : Handle} {e : Url} (he : h.endpoint = .ok e) (a : Action)
    (now : Time.Instant) :
    a.request h now = .ok
      { method := a.method
        url := a.url e
        headers := ({ handle := h, now } : SigV4.Signer).sign .empty a.method.name (a.url e)
          a.payload a.customHeaders
        body := a.body } := by
  unfold request sign
  rw [he]
  rfl

theorem exists_request {h : Handle} {e : Url} (he : h.endpoint = .ok e) (a : Action)
    (now : Time.Instant) : ∃ r, a.request h now = .ok r ∧ r.url = a.url e :=
  ⟨_, request_of_endpoint he a now, rfl⟩

theorem request_of_fault {h : Handle} {f : HandleFault} (he : h.endpoint = .error f) (a : Action)
    (now : Time.Instant) : a.request h now = .error f := by
  unfold request sign
  rw [he]
  rfl

/-- What the request of an action is made of. -/
theorem request_eq {a : Action} {h : Handle} {now : Time.Instant} {r : Http.Request}
    (hr : a.request h now = .ok r) :
    ∃ e, h.endpoint = .ok e ∧ r =
      { method := a.method
        url := a.url e
        headers := ({ handle := h, now } : SigV4.Signer).sign .empty a.method.name (a.url e)
          a.payload a.customHeaders
        body := a.body } := by
  cases he : h.endpoint with
  | error f =>
      rw [request_of_fault he a now] at hr
      cases hr
  | ok e =>
      rw [request_of_endpoint he a now] at hr
      cases hr
      exact ⟨e, rfl, rfl⟩

/-- The endpoint of a handle is the URL of its bucket at a service. -/
theorem endpoint_eq {h : Handle} {e : Url} (he : h.endpoint = .ok e) :
    ∃ s, h.service = .ok s ∧ e = Handle.bucketUrl s h.bucket := by
  unfold Handle.endpoint at he
  cases hs : h.service with
  | error f =>
      rw [hs] at he
      cases he
  | ok s =>
      rw [hs] at he
      cases he
      exact ⟨s, rfl, rfl⟩

theorem isService_endpoint {h : Handle} {e : Url} (he : h.endpoint = .ok e) :
    Url.IsService e := by
  obtain ⟨s, hs, rfl⟩ := endpoint_eq he
  exact (Url.isService_of_service hs).bucketUrl h.bucket

/-- The bucket leaves the query of the service. -/
theorem bucketUrl_query (s : Url) (bucket : Option String) :
    (Handle.bucketUrl s bucket).query = s.query := by
  cases bucket with
  | none => rfl
  | some b =>
      refine (pushSegment_query _ b).trans ?_
      unfold Url.popEmptySegment
      split <;> rfl

end BucketAcl.Action
