/-
The name of the root. Nothing that reads a policy looks at it, so a text
that is accepted stays accepted, as the same policy, whatever its root is
called; and any text whose root says nothing of an owner or of grants is
accepted as a policy of nobody that grants nothing.

Main statement: `ofXml_ignores_root_name`.
-/
import BucketAcl.Proofs.Acl.Accepted
import BucketAcl.Proofs.Sendable
import BucketAcl.Proofs.Xml.TwoScopes

namespace BucketAcl

open Xml

namespace Document

-- ========================================================== two scopes

theorem agrees_ofAclText {α : Type} (e : Except MalformedAcl α) :
    Agrees (ofAclText e) (ofAclText e) := by
  cases e with
  | ok a => exact .pure a
  | error f => exact .fault _ _

theorem agrees_readOwner (e : Element) : Agrees (readOwner e) (readOwner e) := by
  refine .bind (e.agrees_fold (fun f _ => .pure f) (fun f c => ?_) ({} : OwnerFields)) fun f => .pure _
  unfold OwnerFields.child
  split
  · exact .bind (.once _ _ c.agrees_text) fun v => .pure _
  · exact .bind (.once _ _ (c.agrees_optionalText e.tag)) fun v => .pure _
  · exact .bind c.agrees_skip fun _ => .pure f

theorem GranteeFields.agrees_put {f : GranteeFields} {field : String} {text : Reading String}
    (htext : Agrees text text) {r : Reading GranteeFields} (hr : f.put field text = some r) :
    Agrees r r := by
  have htype : Agrees (do
      let type : Reading GranteeType := do ofAclText (GranteeType.parse (← text))
      return { f with type := ← once "@type" f.type type }) _ :=
    .bind (.once _ _ (.bind htext fun s => agrees_ofAclText _)) fun v => .pure _
  unfold put at hr
  split at hr
  · cases hr
    exact .bind (.once _ _ htext) fun v => .pure _
  · cases hr
    exact htype
  · cases hr
    exact htype
  · cases hr

theorem agrees_readGrantee (e : Element) : Agrees (readGrantee e) (readGrantee e) := by
  refine .bind (e.agrees_fold (fun f a => ?_) (fun f c => ?_) ({} : GranteeFields)) fun f => .pure _
  · unfold GranteeFields.ofAttribute
    cases hput : f.put a.field a.text with
    | none => exact .pure f
    | some r => exact GranteeFields.agrees_put a.agrees_text hput
  · by_cases hname : ∃ field : TextField, c.field = field.name
    · obtain ⟨field, hc⟩ := hname
      rw [TextField.child_eq hc]
      exact .bind (.once _ _ (c.agrees_optionalText e.tag)) fun v => .pure _
    · rw [GranteeFields.child_of_other fun field h => hname ⟨field, h⟩]
      cases hput : f.put c.field c.text with
      | none => exact .bind c.agrees_skip fun _ => .pure f
      | some r => exact GranteeFields.agrees_put c.agrees_text hput

theorem agrees_readGrant (e : Element) : Agrees (readGrant e) (readGrant e) := by
  refine .bind (e.agrees_fold (fun f _ => .pure f) (fun f c => ?_) ({} : GrantFields)) fun f =>
    .bind (.required _ _) fun grantee => .bind (.required _ _) fun permission => .pure _
  unfold GrantFields.child
  split
  · exact .bind (.once _ _ (agrees_readGrantee c)) fun v => .pure _
  · exact .bind (.once _ _ (.bind c.agrees_text fun text => agrees_ofAclText _)) fun v => .pure _
  · exact .bind c.agrees_skip fun _ => .pure f

theorem agrees_readGrants (e : Element) : Agrees (readGrants e) (readGrants e) := by
  have hother (run : GrantRun) (c : Element) : Agrees (run.other c) (run.other c) := by
    unfold GrantRun.other
    split
    · split
      · exact .bind (agrees_readGrant c) fun g => .pure _
      · exact .fault _ _
    · exact .bind c.agrees_skip fun _ => .pure run
  refine .bind (e.agrees_foldAttributes (fun _ _ => .pure ()) ()) fun _ =>
    .bind (Element.agrees_foldInside rfl rfl (fun run cs => .pure _) (fun run c => ?_) _)
      fun run => .pure _
  unfold GrantRun.child
  split
  · split
    · exact .bind (agrees_readGrant c) fun g => .pure _
    · exact hother _ c
  · exact hother run c

theorem PolicyFields.agrees_child (f : PolicyFields) (c : Element) :
    Agrees (f.child c) (f.child c) := by
  unfold child
  split
  · exact .bind (.once _ _ (agrees_readOwner c)) fun v => .pure _
  · exact .bind (.once _ _ (agrees_readGrants c)) fun v => .pure _
  · exact .bind c.agrees_skip fun _ => .pure f

/-- What is read of a policy does not depend on the name of its root. -/
theorem agrees_readPolicy_renamed (e : Element) (name : String) :
    Agrees (readPolicy e) (readPolicy (e.renamed name)) := by
  have hinside : (e.renamed name).inside = e.inside := rfl
  refine .bind (.bind (e.agrees_passAttributes name _) fun f => ?_) fun f => .pure _
  exact Element.agrees_foldInside hinside rfl (fun f _ => .pure f) PolicyFields.agrees_child f

-- ============================================================== roots

/-- A text is read as another one that differs from it in the name of the
root, if it is read at all. -/
theorem ofXml_of_renamed {text text' : String} {root : Element} {name : String}
    (hroot : rootOf? text = some root) (hroot' : rootOf? text' = some (root.renamed name))
    {p : Policy} (h : Policy.ofXml text = .ok p) : Policy.ofXml text' = .ok p := by
  rw [ofXml_of_root hroot] at h
  obtain ⟨⟨p', s⟩, hrun, rfl⟩ := exists_of_map_eq_ok h
  have hscope : SameBindings [root.tag] [(root.renamed name).tag] := by
    show [_] = [_]
    rw [show (root.renamed name).tag.bindings = _ from bindings_rename root.tag name]
  obtain ⟨t, hrun', -⟩ := agrees_readPolicy_renamed root name _ _ hscope _ _ hrun
  rw [ofXml_of_root hroot', hrun']
  rfl

/-- A policy whose root has no element for a part of one is nobody's and
grants nothing. -/
theorem eq_empty_of_ofXml {text : String} {root : Element} (hroot : rootOf? text = some root)
    (howner : root.childrenNamed "Owner" = [])
    (hlist : root.childrenNamed "AccessControlList" = []) {p : Policy}
    (h : Policy.ofXml text = .ok p) : p = {} := by
  obtain ⟨root', hroot', -, hread⟩ := Policy.exists_root_of_ofXml h
  rw [hroot, Option.some.injEq] at hroot'
  subst hroot'
  have hp := hread.owner
  have hgs := hread.grants
  rw [howner] at hp
  rw [hlist] at hgs
  obtain ⟨owner, grants⟩ := p
  cases (show owner = {} from hp)
  cases (show grants = [] from hgs)
  rfl

-- ================================================== written documents

/-- An element may be written under any name. -/
theorem isWritten_of_name {name name' : String} {inside : List Node}
    (h : (Node.element ⟨name, []⟩ inside .closed).IsWritten) (hname : IsName name') :
    (Node.element ⟨name', []⟩ inside .closed).IsWritten := by
  cases h with
  | text _ hne hrun => exact .text (isWritten_bare hname) hne hrun
  | elements _ hinside => exact .elements (isWritten_bare hname) hinside

/-- The document of a policy, under some name. -/
def policyTextNamed (name : String) (p : Policy) : String :=
  (Node.element ⟨name, []⟩ [ownerNode p.owner,
    .element ⟨"AccessControlList", []⟩ (p.grants.map grantNode) .closed] .closed).text

/-- It is read like the one under its own name. -/
theorem ofXml_policyTextNamed {name : String} (hname : IsName name) {p : Policy}
    (h : ∀ g ∈ p.grants, g.grantee.schemaInstance = xsiNamespace) :
    Policy.ofXml (policyTextNamed name p) = .ok p.normalized :=
  ofXml_of_renamed (rootOf?_text (isWritten_policyNode p))
    (rootOf?_text (isWritten_of_name (isWritten_policyNode p) hname)) (ofXml_toXml_eq h)

-- ===================================================== other documents

/-- A document of texts, each in an element of its own. -/
def textsNode (name : String) (texts : List (String × String)) : Node :=
  .element ⟨name, []⟩ (texts.map fun x => textElement x.1 x.2) .closed

/-- The name of an element that a policy has no place for. -/
def IsForeign (name : String) : Prop :=
  IsName name ∧ localName name ≠ "Owner" ∧ localName name ≠ "AccessControlList"

instance (name : String) : Decidable (IsForeign name) := inferInstanceAs (Decidable (_ ∧ _))

variable {name : String} {texts : List (String × String)}

theorem isWritten_textsNode (hname : IsName name) (h : ∀ x ∈ texts, IsForeign x.1) :
    (textsNode name texts).IsWritten := by
  refine .elements (isWritten_bare hname) fun n hn => ?_
  obtain ⟨x, hx, rfl⟩ := List.mem_map.1 hn
  exact isWritten_textElement (h x hx).1 x.2

theorem rootOf?_textsNode (hname : IsName name) (h : ∀ x ∈ texts, IsForeign x.1) :
    rootOf? (textsNode name texts).text
      = some ⟨⟨name, []⟩, Node.normalizedAll (texts.map fun x => textElement x.1 x.2),
        .closed⟩ := rootOf?_text (isWritten_textsNode hname h)

/-- An element of a text can be passed over. -/
theorem yields_skip_textElement (name text : String) :
    Yields (textElementAgain name text).skip () := by
  unfold textElementAgain textNodes Element.skip
  by_cases htext : text = ""
  · rw [if_pos htext, Node.normalizedAll]
    exact .pure ()
  · rw [if_neg htext, Node.normalizedAll, Node.normalizedAll, Node.normalized]
    exact .bind (.ofMarkup (resolveRun_piecesOf _)) (.pure ())

/-- Nothing is read of elements that a policy has no place for. -/
theorem yields_foreign (h : ∀ x ∈ texts, IsForeign x.1) (f : PolicyFields) :
    Yields ((Node.normalizedAll (texts.map fun x => textElement x.1 x.2)).foldlM
      (Node.visit (fun s _ => pure s) PolicyFields.child) f) f := by
  induction texts with
  | nil => exact .pure f
  | cons x r ih =>
      obtain ⟨⟨-, howner, hlist⟩, hr⟩ := List.forall_mem_cons.1 h
      rw [List.map_cons, Node.normalizedAll]
      refine Yields.foldlM_cons (yields_visit_textElement ?_) (ih hr)
      rw [PolicyFields.child_of_other (e := textElementAgain x.1 x.2) howner hlist]
      exact .bind (yields_skip_textElement _ _) (.pure f)

/-- A document of such elements is accepted, whatever it is called. -/
theorem ofXml_textsNode (hname : IsName name) (h : ∀ x ∈ texts, IsForeign x.1) :
    Policy.ofXml (textsNode name texts).text = .ok {} := by
  have hpolicy : Yields (readPolicy ⟨⟨name, []⟩,
      Node.normalizedAll (texts.map fun x => textElement x.1 x.2), .closed⟩) {} :=
    .bind (Element.yields_fold rfl (yields_foldAttributes_bare rfl _ _) (yields_foreign h _))
      (.pure _)
  rw [ofXml_of_root (rootOf?_textsNode hname h), hpolicy]
  rfl

end Document

open Document Call

namespace Policy

-- =============================================================== calls

variable {h : Handle} {now : Time.Instant} {n : Http.Network} {reply : Http.Reply} {p : Policy}

/-- A call for a policy gives the one that the reply holds. -/
theorem outcome_getPolicy_of_reply {a : Action}
    (hreply : (outcome (a.perform h now) n).1 = .ok reply) (hp : ofXml reply.text = .ok p) :
    outcome (h.getPolicy now a) n = (.ok p, (outcome (a.perform h now) n).2) := by
  rw [outcome_getPolicy, hreply]
  show ((ofXml reply.text).mapError _, _) = _
  rw [hp]
  rfl

/-- What is known of an object has the policy that the first reply holds,
once the headers are there. -/
theorem outcome_getObjectAcl_of_reply {key : String} {later : Time.Instant}
    (hreply : (outcome ((Action.getObjectAcl key none).perform h now) n).1 = .ok reply)
    (hp : ofXml reply.text = .ok p) :
    outcome (h.getObjectAcl now key later) n
      = outcome (do return (ObjectInfo.ofHeaders key (← h.headObject later key none)).merge p)
          (outcome ((Action.getObjectAcl key none).perform h now) n).2 := by
  unfold Handle.getObjectAcl
  rw [outcome_bind, outcome_getPolicy_of_reply hreply hp]

-- ====================================================== any other name

/-- The name of the root is looked at nowhere. A document of any name,
with elements that a policy has no place for, is accepted as the policy
of nobody that grants nothing, and the calls whose reply it is give that
policy. The document of a policy is read as the policy under any name, as
is any text that is accepted; and whatever is accepted is nobody's and
grants nothing where the root has no element for a part of a policy. -/
theorem ofXml_ignores_root_name {name : String} (hname : IsName name)
    {texts : List (String × String)} (htexts : ∀ x ∈ texts, IsForeign x.1) :
    (∃ root, rootOf? (textsNode name texts).text = some root ∧ root.tag.name = name
        ∧ ofXml (textsNode name texts).text = .ok {})
      ∧ (∀ h now n reply, Http.Reply.text reply = (textsNode name texts).text →
        ((outcome (Action.getBucketAcl.perform h now) n).1 = .ok reply →
          (outcome (h.getBucketAcl now) n).1 = .ok {})
          ∧ ∀ key, (outcome ((Action.getObjectAcl key none).perform h now) n).1 = .ok reply →
            ∀ later, outcome (h.getObjectAcl now key later) n
              = outcome (do
                  return (ObjectInfo.ofHeaders key (← h.headObject later key none)).merge {})
                  (outcome ((Action.getObjectAcl key none).perform h now) n).2)
      ∧ (∀ p : Policy, (∀ g ∈ p.grants, g.grantee.schemaInstance = xsiNamespace) →
        ofXml (policyTextNamed name p) = .ok p.normalized)
      ∧ (∀ text text' root, rootOf? text = some root → rootOf? text' = some (root.renamed name) →
        ∀ p, ofXml text = .ok p ↔ ofXml text' = .ok p)
      ∧ ∀ text root p, rootOf? text = some root → root.childrenNamed "Owner" = [] →
        root.childrenNamed "AccessControlList" = [] → ofXml text = .ok p → p = {} := by
  have hempty := ofXml_textsNode hname htexts
  refine ⟨⟨_, rootOf?_textsNode hname htexts, rfl, hempty⟩, ?_,
    fun p h => ofXml_policyTextNamed hname h, ?_, ?_⟩
  · intro h now n reply hreply
    rw [← hreply] at hempty
    refine ⟨fun hperform => ?_, fun key hperform later => ?_⟩
    · unfold Handle.getBucketAcl
      rw [outcome_getPolicy_of_reply hperform hempty]
    · exact outcome_getObjectAcl_of_reply hperform hempty
  · intro text text' root hroot hroot' p
    exact ⟨ofXml_of_renamed hroot hroot', ofXml_of_renamed hroot' hroot⟩
  · exact fun text root p hroot howner hlist h => eq_empty_of_ofXml hroot howner hlist h

/-- The texts of a refusal. -/
def refusalTexts : List (String × String) :=
  [("Code", "AccessDenied"), ("Message", "Access Denied")]

/-- A handle on a bucket, for requests that are not signed. -/
def visitorHandle : Handle where
  credentials := ⟨"", ""⟩
  region := .custom "" "http://[::1]:9000"
  bucket := some "photos"
  isAnonymous := true

theorem endpoint_visitorHandle : ∃ e, visitorHandle.endpoint = .ok e
    ∧ Http.isSendableValue (Text.trimmed (SigV4.hostHeader e)) = true :=
  exists_of_any_toOption (by decide +kernel)

/-- Each of its actions has a request, which can be sent. -/
theorem exists_request_visitorHandle (a : Action) (now : Time.Instant) :
    ∃ r, a.request visitorHandle now = .ok r ∧ r.isSendable = true ∧ r.method = a.method := by
  obtain ⟨e, he, hhost⟩ := endpoint_visitorHandle
  obtain ⟨r, hr, -⟩ := Action.exists_request he a now
  have hsendable : r.isSendable = true :=
    (Action.isSendable_iff hr he).2 ⟨hhost, fun hsigned => by cases hsigned⟩
  have hmethod : r.method = a.method := by
    obtain ⟨e', -, rfl⟩ := Action.request_eq hr
    rfl
  exact ⟨r, hr, hsendable, hmethod⟩

/-- A reply that grants a request, with a text. -/
def granting (text : String) : Http.Reply where
  status := ⟨200⟩
  headers := []
  body := Text.Utf8.bytes text

theorem text_granting (text : String) : (granting text).text = text := Text.Utf8.lossy_bytes text

/-- A reply that grants the request for the policy is taken. -/
theorem outcome_perform_visitorHandle (text : String) :
    (outcome (Action.getBucketAcl.perform visitorHandle now) { replies := [granting text] }).1
      = .ok (granting text) := by
  obtain ⟨r, hr, hsendable, hmethod⟩ := exists_request_visitorHandle .getBucketAcl now
  have hto : (granting text).to r = granting text := by
    unfold Http.Reply.to
    rw [hmethod]
    rfl
  have hsuccess : (granting text).status.isSuccess = true := rfl
  rw [outcome_perform_sent rfl hr hsendable rfl]
  dsimp only
  rw [if_pos hsuccess, hto]

/-- A refusal that is delivered as a success is a bucket of nobody, and
a policy under the name of a refusal is that policy. -/
theorem ofXml_ignores_root_name_refusal :
    localName "Error" ≠ "AccessControlPolicy"
      ∧ (textsNode "Error" refusalTexts).text
        = "<Error><Code>AccessDenied</Code><Message>Access Denied</Message></Error>"
      ∧ ofXml (textsNode "Error" refusalTexts).text = .ok {}
      ∧ (outcome (visitorHandle.getBucketAcl { seconds := 0 })
          { replies := [granting (textsNode "Error" refusalTexts).text] }).1 = .ok {}
      ∧ ofXml (policyTextNamed "Error" sharedPolicy) = .ok sharedPolicy := by
  obtain ⟨⟨_, _, _, hempty⟩, hcalls, hnamed, -⟩ := ofXml_ignores_root_name
    (show IsName "Error" by decide) (show ∀ x ∈ refusalTexts, IsForeign x.1 by decide)
  refine ⟨by decide, by decide, hempty, ?_, ?_⟩
  · exact (hcalls visitorHandle { seconds := 0 } _ _ (text_granting _)).1
      (outcome_perform_visitorHandle _)
  · rw [hnamed sharedPolicy (by decide)]
    decide

end Policy

end BucketAcl
