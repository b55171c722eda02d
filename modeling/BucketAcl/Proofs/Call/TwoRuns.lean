/-
Two runs of a call, side by side. Where each request of the one is
related to the request that the other sends in its place, both get the
same replies; so they give the same, and have sent related requests.
-/
import BucketAcl.Proofs.Call.Run
import Mathlib.Data.List.Forall2

namespace BucketAcl.Call

open Http

variable {α β : Type} {R : Request → Request → Prop}

-- ============================================================== networks

/-- Networks with the same replies to come, and related requests sent. -/
structure RelatedNetworks (R : Request → Request → Prop) (n m : Network) : Prop where
  isReached : n.isReached = m.isReached
  replies : n.replies = m.replies
  sent : List.Forall₂ R n.sent m.sent

theorem RelatedNetworks.eq {n m : Network} (h : RelatedNetworks Eq n m) : n = m := by
  have hsent : n.sent = m.sent := List.forall₂_eq_eq_eq ▸ h.sent
  cases n
  cases m
  cases h.isReached
  cases h.replies
  cases hsent
  rfl

/-- A relation that the network does not see through: related requests
can both be sent or not, and have the same replies and faults. -/
structure IsHidden (R : Request → Request → Prop) : Prop where
  method : ∀ {r t}, R r t → r.method = t.method
  url : ∀ {r t}, R r t → r.url = t.url
  isSendable : ∀ {r t}, R r t → r.isSendable = t.isSendable

theorem isHidden_eq : IsHidden Eq := ⟨fun h => by rw [h], fun h => by rw [h], fun h => by rw [h]⟩

theorem to_eq_of_related (hR : IsHidden R) {r t : Request} (h : R r t) (p : Reply) :
    p.to r = p.to t := by
  unfold Reply.to
  rw [hR.method h]

/-- Related requests get the same reply. -/
theorem RelatedNetworks.send (hR : IsHidden R) {n m : Network} (h : RelatedNetworks R n m)
    {r t : Request} (hrt : R r t) :
    (n.send r).1 = (m.send t).1 ∧ RelatedNetworks R (n.send r).2 (m.send t).2 := by
  have hsent : List.Forall₂ R (n.sent ++ [r]) (m.sent ++ [t]) :=
    List.rel_append h.sent (.cons hrt .nil)
  unfold Network.send
  rw [h.isReached, h.replies]
  by_cases hm : m.isReached = true
  · rw [if_pos hm, if_pos hm]
    cases m.replies with
    | nil => exact ⟨rfl, rfl, rfl, hsent⟩
    | cons p rest =>
        refine ⟨?_, rfl, rfl, hsent⟩
        dsimp only
        rw [to_eq_of_related hR hrt p]
  · rw [if_neg hm, if_neg hm]
    exact ⟨rfl, h⟩

-- ================================================================= calls

/-- Calls that give the same on related networks, and leave them
related. -/
def Related (R : Request → Request → Prop) (c d : Call α) : Prop :=
  ∀ n m, RelatedNetworks R n m →
    (outcome c n).1 = (outcome d m).1 ∧ RelatedNetworks R (outcome c n).2 (outcome d m).2

theorem Related.of_outcome_eq {c d : Call α} {x : Except CallFault α}
    (hc : ∀ n, outcome c n = (x, n)) (hd : ∀ n, outcome d n = (x, n)) : Related R c d := by
  intro n m hnm
  rw [hc, hd]
  exact ⟨rfl, hnm⟩

theorem Related.pure (a : α) : Related R (Pure.pure a : Call α) (Pure.pure a) :=
  .of_outcome_eq (outcome_pure a) (outcome_pure a)

theorem Related.throw (f : CallFault) : Related R (throw f : Call α) (throw f) :=
  .of_outcome_eq (outcome_throw f) (outcome_throw f)

theorem Related.ofHandle (e : Except HandleFault α) : Related R (ofHandle e) (ofHandle e) :=
  .of_outcome_eq (outcome_ofHandle e) (outcome_ofHandle e)

theorem Related.ofDocument (e : Except Xml.DocumentFault α) :
    Related R (ofDocument e) (ofDocument e) :=
  .of_outcome_eq (outcome_ofDocument e) (outcome_ofDocument e)

/-- What follows runs on the same value in both. -/
theorem Related.bind {c d : Call α} {f g : α → Call β} (h : Related R c d)
    (hfg : ∀ a, Related R (f a) (g a)) : Related R (c >>= f) (d >>= g) := by
  intro n m hnm
  obtain ⟨hvalue, hafter⟩ := h n m hnm
  rw [outcome_bind, outcome_bind]
  rcases hc : outcome c n with ⟨x, n'⟩
  rcases hd : outcome d m with ⟨y, m'⟩
  rw [hc, hd] at hvalue hafter
  have hxy : x = y := hvalue
  subst hxy
  cases x with
  | error e => exact ⟨rfl, hafter⟩
  | ok a => exact hfg a n' m' hafter

theorem Related.send (hR : IsHidden R) {r t : Request} (hrt : R r t) :
    Related R (send r) (send t) := by
  intro n m hnm
  have hst := hR.isSendable hrt
  cases hs : r.isSendable with
  | false =>
      rw [hs] at hst
      rw [outcome_send_of_not_sendable hs, outcome_send_of_not_sendable hst.symm]
      exact ⟨rfl, hnm⟩
  | true =>
      rw [hs] at hst
      rw [outcome_send hs, outcome_send hst.symm, hR.url hrt]
      obtain ⟨hreply, hafter⟩ := hnm.send hR hrt
      rw [hreply]
      exact ⟨rfl, hafter⟩

-- =============================================================== actions

/-- Handles whose requests of an action are related, or fail alike. -/
def RelatedRequests (R : Request → Request → Prop) (h k : Handle) (now : Time.Instant)
    (a : Action) : Prop :=
  (∃ f, a.request h now = .error f ∧ a.request k now = .error f)
    ∨ ∃ r t, a.request h now = .ok r ∧ a.request k now = .ok t ∧ R r t

variable {h k : Handle} {now : Time.Instant}

theorem related_perform (hR : IsHidden R) (hb : h.bucket = k.bucket) {a : Action}
    (ha : RelatedRequests R h k now a) : Related R (a.perform h now) (a.perform k now) := by
  have hbucket : h.requireBucket = k.requireBucket := by
    unfold Handle.requireBucket
    rw [hb]
  unfold Action.perform
  rw [hbucket]
  refine .bind (.ofHandle _) fun bucket => ?_
  rcases ha with ⟨f, hf, hg⟩ | ⟨r, t, hr, ht, hrt⟩
  · rw [hf, hg]
    exact .throw (.handle f)
  · rw [hr, ht]
    show Related R (Call.send r >>= fun reply => _) (Call.send t >>= fun reply => _)
    refine .bind (.send hR hrt) fun reply => ?_
    split
    · exact .pure reply
    · exact .throw _

/-- Two runs of a call are related if those of the actions are, at any
time. -/
theorem related_call (hR : IsHidden R) (hb : h.bucket = k.bucket)
    (ha : ∀ time a, RelatedRequests R h k time a) (c : LibraryCall α) :
    Related R (c.call h now) (c.call k now) := by
  have hperform (time : Time.Instant) (a : Action) :
      Related R (a.perform h time) (a.perform k time) := related_perform hR hb (ha time a)
  have htext (a : Action) : Related R (h.getText now a) (k.getText now a) :=
    .bind (hperform now a) fun p => .pure p.text
  have hpolicy (a : Action) : Related R (h.getPolicy now a) (k.getPolicy now a) :=
    .bind (htext a) fun text => .ofDocument (Policy.ofXml text)
  have hheaders (time : Time.Instant) (key : String) (versionId : Option String) :
      Related R (h.headObject time key versionId) (k.headObject time key versionId) :=
    .bind (hperform time _) fun p => .pure p.headerMap
  cases c with
  | reply a => exact hperform now a
  | text a => exact htext a
  | policy a => exact hpolicy a
  | headers key versionId => exact hheaders now key versionId
  | info key later =>
      exact .bind (hpolicy _) fun p => .bind (hheaders later key none) fun headers => .pure _
  | put a => exact .bind (hperform now a) fun _ => .pure ()

/-- Two runs that begin with the same script and nothing sent. -/
theorem Related.run {c : LibraryCall α} (hc : Related R (c.call h now) (c.call k now))
    (script : List Reply) :
    (c.run h now script).1 = (c.run k now script).1
      ∧ RelatedNetworks R (c.run h now script).2 (c.run k now script).2 :=
  hc { replies := script } { replies := script } ⟨rfl, rfl, .nil⟩

end BucketAcl.Call
