/-
The requests that calls send, before a verifier. Each is signed as the
verifier puts it together, but for the order of the pairs in the query;
where the names keep the order the verifier accepts it. They always do
at a service whose URL has no query of its own.

Main statements: `signedAs_of_mem_sent`, which says exactly when signer
and verifier hash the same text, and `verifies_of_mem_sent`.
-/
import BucketAcl.Proofs.Sendable

namespace BucketAcl.SigV4

open Text

variable {h : Handle} {now : Time.Instant} {script : List Http.Reply} {r : Http.Request}

-- ====================================================== every service

/-- Signer and verifier hash the same text where the names of the query
keep the order, and there only. -/
theorem Received.canonicalRequest_eq_iff (r : Received) :
    r.canonicalRequest byText = r.canonicalRequest byName ↔ NamesKeepOrder r.queryPairs := by
  rw [← orderedQuery_byText_eq_iff]
  constructor
  · intro heq
    unfold canonicalRequest at heq
    simp only [String.append_left_inj, String.append_right_inj] at heq
    exact heq
  · intro heq
    unfold canonicalRequest
    rw [heq]

/-- Every request that a call of a signing handle sends is signed as the
verifier puts it together, with the pairs of the query in the order of
their texts. The verifier, who goes by their names, puts together the
same text exactly where the names keep that order, and accepts the
request then. -/
theorem signedAs_of_mem_sent {α : Type} (c : LibraryCall α) (hs : h.isAnonymous = false)
    (hr : r ∈ (Call.outcome (c.call h now) { replies := script }).2.sent) :
    ∃ timestamp date,
      let region := if h.region.name = "" then "us-east-1" else h.region.name
      let received := Received.ofRequest r
      received.SignedAs h.credentials region timestamp date (received.canonicalRequest byText)
        ∧ (received.canonicalRequest byText = received.canonicalRequest byName
          ↔ NamesKeepOrder received.queryPairs)
        ∧ (NamesKeepOrder received.queryPairs
          → received.Verifies h.credentials region timestamp date) := by
  obtain ⟨time, -, a, ha, -⟩ := c.isRequest_of_mem_sent hr
  have hsigned := Received.signedAs_of_request hs ha
  have hiff := (Received.ofRequest r).canonicalRequest_eq_iff
  refine ⟨time.basicText, time.basicDate, hsigned, hiff, fun hkeep => ?_⟩
  rw [hiff.2 hkeep] at hsigned
  exact hsigned

/-- A handle whose endpoint has a query of its own. -/
def queriedHandle : Handle where
  credentials := { accessKey := "access", secretKey := "secret" }
  region := .custom "" "http://[::1]:9000/?acl-x=1"
  bucket := some "examplebucket"
  isAnonymous := false

theorem endpoint_queriedHandle :
    ∃ e, queriedHandle.endpoint = .ok e ∧ hostHeader e = "[::1]:9000"
      ∧ e.queryPairs = [("acl-x".toList, "1".toList)] :=
  exists_of_any_toOption (by decide +kernel)

/-- All of its requests can be sent. -/
theorem exists_request_queriedHandle (a : Action) (now : Time.Instant) :
    ∃ e r, a.request queriedHandle now = .ok r ∧ r.url = a.url e ∧ r.isSendable = true
      ∧ e.queryPairs = [("acl-x".toList, "1".toList)] := by
  obtain ⟨e, he, hhost, hquery⟩ := endpoint_queriedHandle
  obtain ⟨r, hr, hurl⟩ := Action.exists_request he a now
  refine ⟨e, r, hr, hurl, (Action.isSendable_iff hr he).2 ⟨?_, fun _ => ⟨?_, ?_⟩⟩, hquery⟩
  · rw [hhost]
    decide
  · decide
  · decide

/-- Its request for the policy of an object is sent, and the verifier
puts together another text than the one that was signed. -/
theorem canonicalRequest_ne_of_queriedHandle :
    queriedHandle.isAnonymous = false
      ∧ ∃ r, r ∈ (Call.outcome ((LibraryCall.reply (.getObjectAcl "key" none)).call queriedHandle
          { seconds := 0 }) { replies := [] }).2.sent
        ∧ (Received.ofRequest r).canonicalRequest byText
          ≠ (Received.ofRequest r).canonicalRequest byName := by
  obtain ⟨e, r, hr, hurl, hsendable, hquery⟩ :=
    exists_request_queriedHandle (.getObjectAcl "key" none) { seconds := 0 }
  have hbucket : queriedHandle.bucket = some "examplebucket" := rfl
  have hmem : r ∈ (Call.outcome ((LibraryCall.reply (.getObjectAcl "key" none)).call queriedHandle
      { seconds := 0 }) { replies := [] }).2.sent := by
    rw [LibraryCall.call]
    exact Call.mem_sent_perform hbucket hr hsendable rfl
  obtain ⟨-, -, -, hiff, -⟩ := signedAs_of_mem_sent _ rfl hmem
  refine ⟨rfl, r, hmem, fun heq => ?_⟩
  have hkeep := hiff.1 heq
  rw [Received.queryPairs_ofRequest (Received.isService_of_request hr), hurl,
    Action.queryPairs_url, hquery] at hkeep
  have hlt : '=' < '-' := hkeep ("acl".toList, []) (by decide) ("acl-x".toList, "1".toList)
    (by decide) '-' ['x'] rfl
  exact absurd hlt (by decide)

-- ============================================ services without a query

/-- The names of the pairs that actions add. -/
theorem name_of_mem_addedPairs {a : Action} {p : Pair} (hp : p ∈ a.addedPairs) :
    p.1 = "acl".toList ∨ p.1 = "versionId".toList := by
  obtain ⟨x, hx, rfl⟩ := List.mem_map.1 hp
  have hversion (v : Option String) :
      ∀ y ∈ (v.map fun v => ("versionId", v)).toList, y.1 = "versionId" := by
    intro y hy
    cases v with
    | none => cases hy
    | some v => rw [List.mem_singleton.1 hy]
  have hobject (v : Option String)
      (hx : x ∈ ("acl", "") :: (v.map fun v => ("versionId", v)).toList) :
      x.1 = "acl" ∨ x.1 = "versionId" := by
    rcases List.mem_cons.1 hx with rfl | hx
    · exact .inl rfl
    · exact .inr (hversion v x hx)
  have hname : x.1 = "acl" ∨ x.1 = "versionId" := by
    cases a with
    | getBucketAcl => exact hobject none hx
    | putBucketAcl acl => exact hobject none hx
    | getObjectAcl key versionId => exact hobject versionId hx
    | putObjectAcl key acl versionId => exact hobject versionId hx
    | headObject key versionId =>
        cases versionId with
        | none => cases hx
        | some v => exact .inr (hversion (some v) x hx)
  exact hname.imp (congrArg String.toList) (congrArg String.toList)

/-- None of these names continues another one. -/
theorem namesKeepOrder_addedPairs (a : Action) : NamesKeepOrder a.addedPairs := by
  have hspelled {p : Pair} (hp : p ∈ a.addedPairs.map spelled) :
      p.1 = "acl".toList ∨ p.1 = "versionId".toList := by
    obtain ⟨x, hx, rfl⟩ := List.mem_map.1 hp
    have hacl : Url.Percent.encode Url.Percent.isUnreserved "acl".toList = "acl".toList := by
      decide
    have hversion : Url.Percent.encode Url.Percent.isUnreserved "versionId".toList
        = "versionId".toList := by decide
    unfold spelled
    rcases name_of_mem_addedPairs hx with h | h
    · rw [h, hacl]
      exact .inl rfl
    · rw [h, hversion]
      exact .inr rfl
  intro p hp q hq c rest hname
  exfalso
  rcases hspelled hp with h | h <;> rcases hspelled hq with h' | h' <;> simp [h, h'] at hname

/-- The verifier accepts every request that a call sends to a service
whose URL has no query, as one of the time at which it was made. -/
theorem verifies_of_mem_sent {α : Type} (c : LibraryCall α) (hs : h.isAnonymous = false)
    {service : Url} (hv : h.service = .ok service) (hq : service.query = none)
    (hr : r ∈ (Call.outcome (c.call h now) { replies := script }).2.sent) :
    ∃ time ∈ c.times now, (Received.ofRequest r).Verifies h.credentials (signingRegion h)
      time.basicText time.basicDate := by
  obtain ⟨time, htime, a, ha, -⟩ := c.isRequest_of_mem_sent hr
  have hpairs : (Received.ofRequest r).queryPairs = a.addedPairs := by
    rw [Received.queryPairs_ofRequest (Received.isService_of_request ha)]
    obtain ⟨e, he, rfl⟩ := Action.request_eq ha
    obtain ⟨s, hs', rfl⟩ := Action.endpoint_eq he
    rw [hv] at hs'
    cases hs'
    rw [Action.queryPairs_url]
    unfold Url.queryPairs
    rw [Action.bucketUrl_query, hq]
    rfl
  have hkeep : NamesKeepOrder (Received.ofRequest r).queryPairs :=
    hpairs ▸ namesKeepOrder_addedPairs a
  have hsigned := Received.signedAs_of_request hs ha
  rw [(Received.ofRequest r).canonicalRequest_eq_iff.2 hkeep] at hsigned
  exact ⟨time, htime, hsigned⟩

end BucketAcl.SigV4
