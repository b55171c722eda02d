/-
What a call does to the network, step by step: the laws of its runs,
and the requests that it adds to those that were sent. A call sends
nothing but the requests of its actions, and only where all their
headers can be sent.
-/
import BucketAcl.Call
import BucketAcl.Proofs.Request

namespace BucketAcl.Call

variable {α β : Type}

/-- What a call gives, and the network after it. -/
def outcome (c : Call α) (n : Http.Network) : Except CallFault α × Http.Network := c.run n

-- =============================================================== runs

theorem outcome_pure (a : α) (n : Http.Network) : outcome (pure a) n = (.ok a, n) := rfl

theorem outcome_throw (f : CallFault) (n : Http.Network) :
    outcome (throw f : Call α) n = (.error f, n) := rfl

/-- What follows a call runs on the network after it, unless it fails. -/
theorem outcome_bind (c : Call α) (f : α → Call β) (n : Http.Network) :
    outcome (c >>= f) n =
      match outcome c n with
      | (.ok a, m) => outcome (f a) m
      | (.error e, m) => (.error e, m) := by
  show (c.run >>= ExceptT.bindCont f) n = _
  unfold outcome
  show (match c.run n with
    | (a, m) => ExceptT.bindCont f a m) = _
  rcases c.run n with ⟨a | a, m⟩
  · rfl
  · rfl

/-- What a call gives is looked at once it is over. -/
theorem outcome_map (c : Call α) (f : α → β) (n : Http.Network) :
    outcome (do return f (← c)) n = ((outcome c n).1.map f, (outcome c n).2) := by
  rw [outcome_bind]
  rcases outcome c n with ⟨e | a, m⟩
  · rfl
  · rfl

theorem outcome_ofHandle (e : Except HandleFault α) (n : Http.Network) :
    outcome (ofHandle e) n = (e.mapError .handle, n) := by
  cases e <;> rfl

theorem outcome_ofDocument (e : Except Xml.DocumentFault α) (n : Http.Network) :
    outcome (ofDocument e) n = (e.mapError .document, n) := by
  cases e <;> rfl

theorem outcome_send_of_not_sendable {r : Http.Request} (h : r.isSendable = false)
    (n : Http.Network) : outcome (send r) n = (.error .unsendableHeader, n) := by
  unfold send
  rw [h]
  rfl

theorem outcome_get_bind (f : Http.Network → Call α) (n : Http.Network) :
    outcome (get >>= f) n = outcome (f n) n := rfl

theorem outcome_set_bind (m : Http.Network) (f : PUnit → Call α) (n : Http.Network) :
    outcome (set m >>= f) n = outcome (f ⟨⟩) m := rfl

theorem outcome_send {r : Http.Request} (h : r.isSendable = true) (n : Http.Network) :
    outcome (send r) n = ((n.send r).1.elim (.error (.unanswered r.url)) .ok, (n.send r).2) := by
  unfold send
  rw [h]
  simp only [Bool.not_true, Bool.false_eq_true, if_false]
  rw [outcome_get_bind]
  rcases n.send r with ⟨reply, m⟩
  dsimp only
  rw [outcome_set_bind]
  cases reply with
  | none => rfl
  | some p => rfl

-- ================================================= what a call sends

/-- The requests that a call adds to those that were sent are all of
some kind. -/
def Sends (P : Http.Request → Prop) (c : Call α) : Prop :=
  ∀ n, ∃ rs, (outcome c n).2.sent = n.sent ++ rs ∧ ∀ r ∈ rs, P r

variable {P : Http.Request → Prop}

theorem Sends.mono {Q : Http.Request → Prop} {c : Call α} (hc : Sends P c)
    (h : ∀ r, P r → Q r) : Sends Q c := by
  intro n
  obtain ⟨rs, hrs, hP⟩ := hc n
  exact ⟨rs, hrs, fun r hr => h r (hP r hr)⟩

theorem Sends.of_outcome_eq {c : Call α} {x : Http.Network → Except CallFault α}
    (h : ∀ n, outcome c n = (x n, n)) : Sends P c := by
  intro n
  refine ⟨[], ?_, fun r hr => by cases hr⟩
  rw [h, List.append_nil]

theorem Sends.pure (a : α) : Sends P (Pure.pure a : Call α) := .of_outcome_eq (outcome_pure a)

theorem Sends.throw (f : CallFault) : Sends P (throw f : Call α) :=
  .of_outcome_eq (outcome_throw f)

theorem Sends.ofHandle (e : Except HandleFault α) : Sends P (ofHandle e) :=
  .of_outcome_eq (outcome_ofHandle e)

theorem Sends.ofDocument (e : Except Xml.DocumentFault α) : Sends P (ofDocument e) :=
  .of_outcome_eq (outcome_ofDocument e)

/-- What follows a call is run on what the call gave. -/
theorem Sends.bind {c : Call α} {f : α → Call β} (hc : Sends P c)
    (hf : ∀ a n m, outcome c n = (.ok a, m) → Sends P (f a)) : Sends P (c >>= f) := by
  intro n
  obtain ⟨rs, hrs, hP⟩ := hc n
  rw [outcome_bind]
  rcases ho : outcome c n with ⟨e | a, m⟩
  · rw [ho] at hrs
    exact ⟨rs, hrs, hP⟩
  · rw [ho] at hrs
    obtain ⟨ts, hts, hQ⟩ := hf a n m ho m
    refine ⟨rs ++ ts, ?_, ?_⟩
    · show (outcome (f a) m).2.sent = _
      rw [hts, show m.sent = n.sent ++ rs from hrs, List.append_assoc]
    · intro r hr
      rcases List.mem_append.1 hr with hr | hr
      · exact hP r hr
      · exact hQ r hr

/-- A network records a request that reaches somebody. -/
theorem sent_send (n : Http.Network) (r : Http.Request) :
    (n.send r).2.sent = if n.isReached then n.sent ++ [r] else n.sent := by
  unfold Http.Network.send
  split
  · cases n.replies <;> rfl
  · rfl

theorem Sends.send {r : Http.Request} (h : r.isSendable = true → P r) : Sends P (send r) := by
  intro n
  cases hs : r.isSendable with
  | false =>
      rw [outcome_send_of_not_sendable hs]
      exact ⟨[], (List.append_nil _).symm, fun r hr => by cases hr⟩
  | true =>
      rw [outcome_send hs]
      show ∃ rs, (n.send r).2.sent = _ ∧ _
      rw [sent_send]
      split
      · exact ⟨[r], rfl, List.forall_mem_singleton.2 (h hs)⟩
      · exact ⟨[], (List.append_nil _).symm, fun r hr => by cases hr⟩

-- ============================================================ actions

/-- A request of some action of a handle that can be sent. -/
def IsRequestOf (h : Handle) (now : Time.Instant) (r : Http.Request) : Prop :=
  ∃ a : Action, a.request h now = .ok r ∧ r.isSendable = true

variable {h : Handle} {now : Time.Instant}

/-- An action sends its own request and nothing else. -/
theorem sends_own (a : Action) :
    Sends (fun r => a.request h now = .ok r ∧ r.isSendable = true) (a.perform h now) := by
  refine .bind (.ofHandle _) fun bucket _ _ _ => ?_
  refine .bind (.ofHandle _) fun r n m hr => ?_
  have hreq : a.request h now = .ok r := by
    rw [outcome_ofHandle] at hr
    cases hq : a.request h now with
    | error f =>
        rw [hq] at hr
        cases hr
    | ok q =>
        rw [hq] at hr
        cases hr
        rfl
  refine .bind (.send fun hs => ⟨hreq, hs⟩) fun reply _ _ _ => ?_
  split
  · exact .pure reply
  · exact .throw _

theorem sends_perform (a : Action) : Sends (IsRequestOf h now) (a.perform h now) :=
  (sends_own a).mono fun _ hr => ⟨a, hr⟩

-- ======================================================== one action

section

variable {a : Action} {bucket : String} {r : Http.Request}

/-- Without a bucket there is nothing to ask about. -/
theorem outcome_perform_of_no_bucket (hb : h.bucket = none) (n : Http.Network) :
    outcome (a.perform h now) n = (.error (.handle .bucketMissing), n) := by
  have hreq : h.requireBucket = .error .bucketMissing := by
    unfold Handle.requireBucket
    rw [hb]
  unfold Action.perform
  rw [outcome_bind, outcome_ofHandle, hreq]
  rfl

/-- With a bucket the request comes next. -/
theorem outcome_perform_of_bucket (hb : h.bucket = some bucket) (n : Http.Network) :
    outcome (a.perform h now) n = outcome (do
      let reply ← send (← ofHandle (a.request h now))
      if reply.status.isSuccess then return reply
      else throw (.refused (.ofReply reply bucket a.key?))) n := by
  have hreq : h.requireBucket = .ok bucket := by
    unfold Handle.requireBucket
    rw [hb]
  unfold Action.perform
  rw [outcome_bind, outcome_ofHandle, hreq]
  rfl

theorem outcome_perform_of_fault {f : HandleFault} (hb : h.bucket = some bucket)
    (hr : a.request h now = .error f) (n : Http.Network) :
    outcome (a.perform h now) n = (.error (.handle f), n) := by
  rw [outcome_perform_of_bucket hb, outcome_bind, outcome_ofHandle, hr]
  rfl

theorem outcome_perform_of_not_sendable (hb : h.bucket = some bucket)
    (hr : a.request h now = .ok r) (hs : r.isSendable = false) (n : Http.Network) :
    outcome (a.perform h now) n = (.error .unsendableHeader, n) := by
  rw [outcome_perform_of_bucket hb, outcome_bind, outcome_ofHandle, hr]
  dsimp only [Except.mapError]
  rw [outcome_bind, outcome_send_of_not_sendable hs]

/-- What becomes of a request that is sent: the reply is the result only
where it is one of success. -/
theorem outcome_perform_of_sendable (hb : h.bucket = some bucket)
    (hr : a.request h now = .ok r) (hs : r.isSendable = true) (n : Http.Network) :
    outcome (a.perform h now) n
      = ((n.send r).1.elim (.error (.unanswered r.url)) fun p =>
          if p.status.isSuccess then .ok p else .error (.refused (.ofReply p bucket a.key?)),
        (n.send r).2) := by
  rw [outcome_perform_of_bucket hb, outcome_bind, outcome_ofHandle, hr]
  dsimp only [Except.mapError]
  rw [outcome_bind, outcome_send hs]
  cases hn : (n.send r).1 with
  | none => rfl
  | some p =>
      dsimp only [Option.elim_some]
      by_cases hp : p.status.isSuccess = true
      · rw [if_pos hp, if_pos hp]
        rfl
      · rw [if_neg hp, if_neg hp]
        rfl

/-- What a request leaves to come and adds to what was sent. -/
def after (n : Http.Network) (r : Http.Request) : Http.Network :=
  { n with replies := n.replies.tail, sent := n.sent ++ [r] }

theorem status_to (p : Http.Reply) (r : Http.Request) : (p.to r).status = p.status := by
  unfold Http.Reply.to
  split <;> rfl

/-- Where anything is reached, one request is sent and the next reply
decides. -/
theorem outcome_perform_sent (hb : h.bucket = some bucket) (hr : a.request h now = .ok r)
    (hs : r.isSendable = true) {n : Http.Network} (hn : n.isReached = true) :
    outcome (a.perform h now) n =
      (match n.replies with
        | [] => .error (.unanswered r.url)
        | p :: _ =>
          if p.status.isSuccess then .ok (p.to r)
          else .error (.refused (.ofReply (p.to r) bucket a.key?)), after n r) := by
  rw [outcome_perform_of_sendable hb hr hs]
  unfold Http.Network.send after
  rw [if_pos hn]
  cases n.replies with
  | nil => rfl
  | cons p rest =>
      dsimp only [Option.elim_some, List.tail_cons]
      rw [status_to]

/-- A request that can be sent is, where anything is reached. -/
theorem mem_sent_perform (hb : h.bucket = some bucket) (hr : a.request h now = .ok r)
    (hs : r.isSendable = true) {n : Http.Network} (hn : n.isReached = true) :
    r ∈ (outcome (a.perform h now) n).2.sent := by
  rw [outcome_perform_of_sendable hb hr hs]
  dsimp only
  rw [sent_send, if_pos hn]
  exact List.mem_append_right _ (List.mem_singleton_self r)

end

-- ======================================================= what is read

theorem outcome_getPolicy (a : Action) (n : Http.Network) :
    outcome (h.getPolicy now a) n
      = ((outcome (a.perform h now) n).1.bind fun p => (Policy.ofXml p.text).mapError .document,
        (outcome (a.perform h now) n).2) := by
  unfold Handle.getPolicy Handle.getText
  rw [outcome_bind, outcome_bind]
  rcases outcome (a.perform h now) n with ⟨f | p, m⟩
  · rfl
  · exact outcome_ofDocument _ m

theorem outcome_headObject (key : String) (versionId : Option String) (n : Http.Network) :
    outcome (h.headObject now key versionId) n
      = ((outcome ((Action.headObject key versionId).perform h now) n).1.map Http.Reply.headerMap,
        (outcome ((Action.headObject key versionId).perform h now) n).2) :=
  outcome_map ((Action.headObject key versionId).perform h now) Http.Reply.headerMap n

end BucketAcl.Call

namespace BucketAcl

-- ============================================================== calls

/-- The calls that a handle is used for, by what they give. One that has
a second request names the time at which this one is made. -/
inductive LibraryCall : Type → Type where
  | reply (a : Action) : LibraryCall Http.Reply
  | text (a : Action) : LibraryCall String
  | policy (a : Action) : LibraryCall Policy
  | headers (key : String) (versionId : Option String) : LibraryCall (Index (List String))
  | info (key : String) (later : Time.Instant) : LibraryCall ObjectInfo
  | put (a : Action) : LibraryCall Unit

namespace LibraryCall

/-- The call, for a handle and the time of its first request. -/
def call {α : Type} (h : Handle) (now : Time.Instant) : LibraryCall α → Call α
  | reply a => a.perform h now
  | text a => h.getText now a
  | policy a => h.getPolicy now a
  | headers key versionId => h.headObject now key versionId
  | info key later => h.getObjectAcl now key later
  | put a => h.put now a

/-- The times at which a call makes its requests. -/
def times {α : Type} (now : Time.Instant) : LibraryCall α → List Time.Instant
  | info _ later => [now, later]
  | reply _ | text _ | policy _ | headers _ _ | put _ => [now]

/-- What a call gives, and the network after it, if nothing was sent
before and the replies of a script come in. -/
def run {α : Type} (c : LibraryCall α) (h : Handle) (now : Time.Instant)
    (script : List Http.Reply) : Except CallFault α × Http.Network :=
  Call.outcome (c.call h now) { replies := script }

variable {h : Handle} {now : Time.Instant}

theorem sends_getText (a : Action) : Call.Sends (Call.IsRequestOf h now) (h.getText now a) :=
  .bind (Call.sends_perform a) fun reply _ _ _ => .pure reply.text

theorem sends_getPolicy (a : Action) :
    Call.Sends (Call.IsRequestOf h now) (h.getPolicy now a) :=
  .bind (sends_getText a) fun _ _ _ _ => .ofDocument _

theorem sends_headObject (key : String) (versionId : Option String) :
    Call.Sends (Call.IsRequestOf h now) (h.headObject now key versionId) :=
  .bind (Call.sends_perform _) fun reply _ _ _ => .pure reply.headerMap

theorem mem_times {α : Type} (c : LibraryCall α) (now : Time.Instant) : now ∈ c.times now := by
  cases c <;> exact List.mem_cons_self ..

/-- A request of some action at one of the times of a call. -/
def IsRequest {α : Type} (c : LibraryCall α) (h : Handle) (now : Time.Instant)
    (r : Http.Request) : Prop := ∃ time ∈ c.times now, Call.IsRequestOf h time r

/-- Every call sends requests of actions only, each at one of its times. -/
theorem sends_call {α : Type} (c : LibraryCall α) :
    Call.Sends (c.IsRequest h now) (c.call h now) := by
  have hnow (r : Http.Request) (hr : Call.IsRequestOf h now r) : c.IsRequest h now r :=
    ⟨now, c.mem_times now, hr⟩
  cases c with
  | reply a => exact (Call.sends_perform a).mono hnow
  | text a => exact (sends_getText a).mono hnow
  | policy a => exact (sends_getPolicy a).mono hnow
  | headers key versionId => exact (sends_headObject key versionId).mono hnow
  | info key later =>
      refine .bind ((sends_getPolicy _).mono hnow) fun p _ _ _ => ?_
      refine .bind ((sends_headObject key none).mono fun r hr => ?_) fun _ _ _ _ => .pure _
      exact ⟨later, List.mem_cons_of_mem _ (List.mem_singleton_self later), hr⟩
  | put a => exact .bind ((Call.sends_perform a).mono hnow) fun _ _ _ _ => .pure ()

/-- What was sent by a call that found nothing sent yet. -/
theorem isRequest_of_mem_sent {α : Type} (c : LibraryCall α) {script : List Http.Reply}
    {r : Http.Request}
    (hr : r ∈ (Call.outcome (c.call h now) { replies := script }).2.sent) :
    c.IsRequest h now r := by
  have hsends : Call.Sends (c.IsRequest h now) (c.call h now) := sends_call c
  obtain ⟨rs, hrs, hall⟩ := hsends { replies := script }
  rw [hrs] at hr
  exact hall r hr

end LibraryCall

end BucketAcl
