/-
Calls that are refused. The replies to come answer the requests of a call
in their order, and the call is refused exactly where one of these does
not grant its request; of that reply the fault reports all.

Main statements: `run_refused_iff`, `run_reports_refusal`.
-/
import BucketAcl.Proofs.Acl.RootName
import BucketAcl.Proofs.Reply.Refusal

namespace BucketAcl

open Http

namespace Call

variable {α β : Type} {h : Handle} {now : Time.Instant} {key : Option String} {n : Network}

-- ============================================================= answers

/-- A refusal by one of some answers to requests of a handle, whose reply
does not grant its request. -/
def IsRefusedBy (h : Handle) (key : Option String) (answers : List (Request × Reply))
    (e : Refusal) : Prop :=
  ∃ r p bucket, (r, p) ∈ answers ∧ p.status.isSuccess = false ∧ h.bucket = some bucket
    ∧ e.Reports (p.to r) bucket key

theorem isRefusedBy_append {xs ys : List (Request × Reply)} {e : Refusal} :
    IsRefusedBy h key (xs ++ ys) e ↔ IsRefusedBy h key xs e ∨ IsRefusedBy h key ys e := by
  constructor
  · rintro ⟨r, p, bucket, hmem, hrefused⟩
    rcases List.mem_append.1 hmem with hmem | hmem
    · exact .inl ⟨r, p, bucket, hmem, hrefused⟩
    · exact .inr ⟨r, p, bucket, hmem, hrefused⟩
  · rintro (⟨r, p, bucket, hmem, hrefused⟩ | ⟨r, p, bucket, hmem, hrefused⟩)
    · exact ⟨r, p, bucket, List.mem_append_left _ hmem, hrefused⟩
    · exact ⟨r, p, bucket, List.mem_append_right _ hmem, hrefused⟩

theorem isRefusedBy_singleton {bucket : String} (hb : h.bucket = some bucket) {r : Request}
    {p : Reply} {e : Refusal} : IsRefusedBy h key [(r, p)] e
      ↔ p.status.isSuccess = false ∧ e = .ofReply (p.to r) bucket key := by
  constructor
  · rintro ⟨r', p', bucket', hmem, hno, hb', hreports⟩
    cases List.mem_singleton.1 hmem
    rw [hb, Option.some.injEq] at hb'
    subst hb'
    exact ⟨hno, Refusal.reports_iff.1 hreports⟩
  · rintro ⟨hno, he⟩
    exact ⟨r, p, bucket, List.mem_singleton_self _, hno, hb, Refusal.reports_iff.2 he⟩

/-- What is sent later is answered by what the earlier left. -/
theorem zip_append_left (rs ts : List Request) (ps : List Reply) :
    (rs ++ ts).zip ps = rs.zip ps ++ ts.zip (ps.drop rs.length) := by
  induction rs generalizing ps with
  | nil => rfl
  | cons r rest ih =>
      cases ps with
      | nil => simp
      | cons p ps =>
          rw [List.cons_append, List.zip_cons_cons, ih, List.zip_cons_cons, List.length_cons,
            List.drop_succ_cons, List.cons_append]

/-- What becomes of a call that sends some requests over a network: each
of them takes a reply, and the call is refused where one of these does
not grant its request. -/
structure Heeds (h : Handle) (key : Option String) (n : Network) (rs : List Request)
    (o : Except CallFault α × Network) : Prop where
  after : o.2 = { n with replies := n.replies.drop rs.length, sent := n.sent ++ rs }
  bucket : ∀ r ∈ rs, ∃ bucket, h.bucket = some bucket
  refused : ∀ e, o.1 = .error (.refused e) ↔ IsRefusedBy h key (rs.zip n.replies) e

/-- What sends nothing is not refused. -/
theorem Heeds.idle {x : Except CallFault α} (hx : ∀ e, x ≠ .error (.refused e)) :
    Heeds h key n [] (x, n) := by
  refine ⟨?_, List.forall_mem_nil _, fun e => ⟨fun he => absurd he (hx e), ?_⟩⟩
  · simp
  · rintro ⟨r, p, bucket, hmem, -⟩
    cases hmem

-- =============================================================== calls

/-- A call that heeds the replies of any network that is reached. -/
def IsHeedful (h : Handle) (key : Option String) (c : Call α) : Prop :=
  ∀ n, n.isReached = true → ∃ rs, Heeds h key n rs (outcome c n)

namespace IsHeedful

theorem of_outcome_eq {c : Call α} {x : Except CallFault α} (hc : ∀ n, outcome c n = (x, n))
    (hx : ∀ e, x ≠ .error (.refused e)) : IsHeedful h key c := by
  intro n _
  rw [hc]
  exact ⟨[], .idle hx⟩

theorem pure (a : α) : IsHeedful h key (Pure.pure a : Call α) :=
  .of_outcome_eq (outcome_pure a) fun e he => by cases he

theorem ofDocument (x : Except Xml.DocumentFault α) : IsHeedful h key (ofDocument x) := by
  refine .of_outcome_eq (outcome_ofDocument x) fun e he => ?_
  cases x with
  | ok a => cases he
  | error f => cases he

/-- What follows a call heeds the replies that the call left. -/
theorem bind {c : Call α} {f : α → Call β} (hc : IsHeedful h key c)
    (hf : ∀ a, IsHeedful h key (f a)) : IsHeedful h key (c >>= f) := by
  intro n hn
  obtain ⟨rs, hafter, hbucket, hrefused⟩ := hc n hn
  rw [outcome_bind]
  rcases ho : outcome c n with ⟨fault | a, m⟩
  · rw [ho] at hafter hrefused
    refine ⟨rs, hafter, hbucket, fun e => ?_⟩
    rw [← hrefused, Except.error.injEq, Except.error.injEq]
  · rw [ho] at hafter hrefused
    have hm : m = { n with replies := n.replies.drop rs.length, sent := n.sent ++ rs } := hafter
    obtain ⟨ts, hafter', hbucket', hrefused'⟩ := hf a m (by rw [hm]; exact hn)
    refine ⟨rs ++ ts, ?_, List.forall_mem_append.2 ⟨hbucket, hbucket'⟩, fun e => ?_⟩
    · show (outcome (f a) m).2 = _
      rw [hafter', hm]
      simp [List.drop_drop]
    · -- a call that goes on was refused by none of its own answers
      have hno : ¬IsRefusedBy h key (rs.zip n.replies) e := by
        intro hown
        cases (hrefused e).2 hown
      show (outcome (f a) m).1 = _ ↔ _
      rw [hrefused', zip_append_left, isRefusedBy_append, or_iff_right hno, hm]

end IsHeedful

/-- An action sends one request at most, and its reply decides. -/
theorem isHeedful_perform (a : Action) : IsHeedful h a.key? (a.perform h now) := by
  intro n hn
  cases hb : h.bucket with
  | none =>
      rw [outcome_perform_of_no_bucket hb]
      exact ⟨[], .idle fun e he => by cases he⟩
  | some bucket =>
      cases hr : a.request h now with
      | error f =>
          rw [outcome_perform_of_fault hb hr]
          exact ⟨[], .idle fun e he => by cases he⟩
      | ok r =>
          cases hs : r.isSendable with
          | false =>
              rw [outcome_perform_of_not_sendable hb hr hs]
              exact ⟨[], .idle fun e he => by cases he⟩
          | true =>
              rw [outcome_perform_sent hb hr hs hn]
              refine ⟨[r], ?_, fun _ _ => ⟨bucket, hb⟩, fun e => ?_⟩
              · unfold after
                simp
              · cases hreplies : n.replies with
                | nil =>
                    refine ⟨nofun, ?_⟩
                    rintro ⟨_, _, _, hmem, -⟩
                    cases hmem
                | cons p rest =>
                    rw [List.zip_cons_cons, List.zip_nil_left, isRefusedBy_singleton hb]
                    dsimp only
                    by_cases hp : p.status.isSuccess = true
                    · rw [if_pos hp]
                      refine ⟨nofun, fun hrefused => ?_⟩
                      rw [hp] at hrefused
                      cases hrefused.1
                    · rw [if_neg hp, Except.error.injEq, CallFault.refused.injEq]
                      refine ⟨fun he => ⟨Bool.eq_false_iff.2 hp, he.symm⟩, fun he => he.2.symm⟩

end Call

namespace LibraryCall

open Call

variable {α : Type} {h : Handle} {now : Time.Instant}

-- ================================================================ runs

/-- The key that a call is made with, if it is about an object. -/
def key? : LibraryCall α → Option String
  | reply a | text a | policy a | put a => a.key?
  | headers key _ | info key _ => some key

/-- Every call heeds its replies, one request after the other. -/
theorem isHeedful_call (c : LibraryCall α) (h : Handle) (now : Time.Instant) :
    IsHeedful h c.key? (c.call h now) := by
  have htext (a : Action) : IsHeedful h a.key? (h.getText now a) :=
    .bind (isHeedful_perform a) fun p => .pure p.text
  have hpolicy (a : Action) : IsHeedful h a.key? (h.getPolicy now a) :=
    .bind (htext a) fun text => .ofDocument (Policy.ofXml text)
  have hheaders (time : Time.Instant) (key : String) (versionId : Option String) :
      IsHeedful h (some key) (h.headObject time key versionId) :=
    .bind (isHeedful_perform (.headObject key versionId)) fun p => .pure p.headerMap
  cases c with
  | reply a => exact isHeedful_perform a
  | text a => exact htext a
  | policy a => exact hpolicy a
  | headers key versionId => exact hheaders now key versionId
  | info key later =>
      exact .bind (hpolicy (.getObjectAcl key none)) fun _ =>
        .bind (hheaders later key none) fun _ => .pure _
  | put a => exact .bind (isHeedful_perform a) fun _ => .pure ()

theorem heeds_run (c : LibraryCall α) (h : Handle) (now : Time.Instant) (script : List Reply) :
    Heeds h c.key? { replies := script } (c.run h now script).2.sent (c.run h now script) := by
  obtain ⟨rs, hheeds⟩ := isHeedful_call c h now { replies := script } rfl
  have hsent : (c.run h now script).2.sent = rs := by
    show (outcome (c.call h now) { replies := script }).2.sent = rs
    rw [hheeds.after]
    rfl
  rw [hsent]
  exact hheeds

/-- A call fails by a refusal exactly if one of the replies to what it
sent does not grant its request, and then the fault reports this reply. -/
theorem run_refused_iff (c : LibraryCall α) (h : Handle) (now : Time.Instant)
    (script : List Reply) (e : Refusal) :
    (c.run h now script).1 = .error (.refused e)
      ↔ IsRefusedBy h c.key? ((c.run h now script).2.sent.zip script) e :=
  (heeds_run c h now script).refused e

/-- Any reply to a request of any call that does not grant it: the call
fails and reports this reply, with the bucket of the handle and the key
that the call was made with. -/
theorem run_reports_refusal (c : LibraryCall α) {script : List Reply} {r : Request} {p : Reply}
    (hanswer : (r, p) ∈ (c.run h now script).2.sent.zip script)
    (hno : p.status.isSuccess = false) :
    ∃ bucket e, h.bucket = some bucket ∧ (c.run h now script).1 = .error (.refused e)
      ∧ e.Reports (p.to r) bucket c.key? := by
  have hheeds := heeds_run c h now script
  obtain ⟨bucket, hb⟩ := hheeds.bucket r (List.of_mem_zip hanswer).1
  have hreports := Refusal.reports_ofReply (p.to r) bucket c.key?
  exact ⟨bucket, _, hb, (hheeds.refused _).2 ⟨r, p, bucket, hanswer, hno, hb, hreports⟩, hreports⟩

/-- What a store says of an object that is not there. -/
def noSuchKey : ErrorDocument where
  code := "NoSuchKey"
  message := "The specified key does not exist."
  resource := none
  requestId := some "inside"
  hostId := some "host"

/-- A reply with this document, and a header for one of its ids. -/
def notFound : Reply where
  status := ⟨404⟩
  headers := [("x-amz-request-id", Text.Utf8.bytes "4442587FB7D0A2F9")]
  body := Text.Utf8.bytes noSuchKey.written

theorem document?_notFound : notFound.document? = some noSuchKey := by
  rw [Reply.document?_eq_some_iff, notFound, Text.Utf8.lossy_bytes, ErrorDocument.ofXml_written]
  decide

/-- The reply is that to the one request for the policy of an object. -/
theorem exists_answer_visitorHandle (key : String) (now : Time.Instant) :
    ∃ r : Request, r.method = .get
      ∧ (r, notFound) ∈ ((reply (.getObjectAcl key none)).run Policy.visitorHandle now
        [notFound]).2.sent.zip [notFound] := by
  obtain ⟨r, hr, hsendable, hmethod⟩ :=
    Policy.exists_request_visitorHandle (.getObjectAcl key none) now
  refine ⟨r, hmethod, ?_⟩
  unfold run call
  rw [outcome_perform_sent rfl hr hsendable rfl]
  exact List.mem_cons_self ..

/-- The id in the header goes before that in the document, which gives
the rest. -/
theorem run_reports_refusal_notFound :
    ∃ e, ((reply (.getObjectAcl "missing" none)).run Policy.visitorHandle { seconds := 0 }
        [notFound]).1 = .error (.refused e)
      ∧ e.code = some "NoSuchKey" ∧ e.requestId = some "4442587FB7D0A2F9"
      ∧ e.hostId = some "host" ∧ e.body = none
      ∧ e.text = "HTTP Status Code: 404 Not Found, Bucket: photos, Key: missing, "
        ++ "Code: NoSuchKey, Message: The specified key does not exist." := by
  obtain ⟨r, hmethod, hanswer⟩ := exists_answer_visitorHandle "missing" { seconds := 0 }
  obtain ⟨bucket, e, hb, hrun, hreports⟩ := run_reports_refusal _ hanswer rfl
  cases hb
  have hto : notFound.to r = notFound := by
    unfold Reply.to
    rw [hmethod]
    rfl
  have he := Refusal.reports_iff.1 hreports
  rw [hto, Refusal.ofReply_eq, document?_notFound] at he
  subst he
  refine ⟨_, hrun, ?_⟩
  decide

end LibraryCall

end BucketAcl
