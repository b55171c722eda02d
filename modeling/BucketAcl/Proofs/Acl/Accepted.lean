/-
What a text says that is accepted as a policy. Its root gives each part
of the policy, and gives it once: a text whose root has two elements for
one part, or one that does not give what it has to, is refused as a
whole. Of the optional texts of a grantee one may be left out although
its element is there, if it is declared to be nil; and a prefix may be
taken for that of another element that was passed over.

Main statement: `ofXml_reads_root`.
-/
import BucketAcl.Proofs.Acl.RoundTrip

namespace BucketAcl

open Xml

namespace Document

/-- A text without a root is no policy. -/
theorem exists_rootOf_of_ofXml {text : String} {p : Policy} (h : Policy.ofXml text = .ok p) :
    ∃ root, rootOf? text = some root := by
  unfold Policy.ofXml Reading.result StateT.run' at h
  obtain ⟨⟨_, _⟩, hrun, -⟩ := exists_of_map_eq_ok h
  obtain ⟨root, scope, hroot, -⟩ := exists_of_run_bind hrun
  refine ⟨root, ?_⟩
  unfold rootOf?
  rw [hroot]
  rfl

-- ========================================================== malformed

/-- An element for a grant that does not say who is granted what, or
says so twice. -/
inductive IsMalformedGrant (e : Element) : Prop where
  | grantees (h : (e.childrenNamed "Grantee").length ≠ 1) : IsMalformedGrant e
  | permissions (h : (e.childrenNamed "Permission").length ≠ 1) : IsMalformedGrant e
  | unknownPermission {c : Element} (hc : c ∈ e.childrenNamed "Permission")
      (h : ∀ q : Permission, ¬ c.HoldsText q.name) : IsMalformedGrant e
  | unknownType {c : Element} (hc : c ∈ e.childrenNamed "Grantee") {x : Source}
      (hx : x ∈ c.giving ["@type", "@xsi:type"]) (h : ∀ t : GranteeType, ¬ x.Says t.name) :
      IsMalformedGrant e

/-- A root that gives a part of a policy twice or not as it has to. -/
inductive IsMalformed (root : Element) : Prop where
  | owners (h : 1 < (root.childrenNamed "Owner").length) : IsMalformed root
  | lists (h : 1 < (root.childrenNamed "AccessControlList").length) : IsMalformed root
  | separated {list : Element} (hlist : list ∈ root.childrenNamed "AccessControlList")
      (h : ¬ list.childrenNamed "Grant" <:+: list.children) : IsMalformed root
  | grant {list e : Element} (hlist : list ∈ root.childrenNamed "AccessControlList")
      (he : e ∈ list.childrenNamed "Grant") (h : IsMalformedGrant e) : IsMalformed root

end Document

-- =========================================================== refusals

section

variable {α β : Type} {P : α → β → Prop}

theorem TakenFrom.length_le {other value : α} {sources : List β}
    (h : TakenFrom P other sources value) : sources.length ≤ 1 := by
  unfold TakenFrom at h
  split at h
  · exact Nat.zero_le 1
  · exact Nat.le_refl 1
  · exact h.elim

/-- A source that is there has given the value. -/
theorem TakenFrom.of_mem {other value : α} {sources : List β}
    (h : TakenFrom P other sources value) {x : β} (hx : x ∈ sources) : P value x := by
  unfold TakenFrom at h
  split at h
  · cases hx
  · rw [List.mem_singleton.1 hx]
    exact h
  · exact h.elim

end

open Document

theorem Grant.IsReadFrom.not_isMalformed {tags : List Tag} {g : Grant} {e : Element}
    (h : g.IsReadFrom tags e) : ¬ IsMalformedGrant e := by
  obtain ⟨grantee, hgrantee, hg⟩ := h.grantee
  obtain ⟨permission, hpermission, hq⟩ := h.permission
  rintro (hne | hne | ⟨hc, hunknown⟩ | ⟨hc, hx, hunknown⟩)
  · exact hne (by rw [hgrantee]; rfl)
  · exact hne (by rw [hpermission]; rfl)
  · rw [hpermission, List.mem_singleton] at hc
    exact hunknown _ (hc ▸ hq)
  · rw [hgrantee, List.mem_singleton] at hc
    rw [hc] at hx
    exact hunknown _ (hg.type.of_mem hx)

namespace Policy

theorem IsReadFrom.not_isMalformed {p : Policy} {root : Element} (h : p.IsReadFrom root) :
    ¬ IsMalformed root := by
  rintro (htwo | htwo | ⟨hlist, hseparated⟩ | ⟨hlist, he, hgrant⟩)
  · exact absurd h.owner.length_le (Nat.not_le.2 htwo)
  · exact absurd h.grants.length_le (Nat.not_le.2 htwo)
  · exact hseparated (h.grants.of_mem hlist).together
  · obtain ⟨g, -, hg⟩ := exists_of_forall₂_of_mem (h.grants.of_mem hlist).each he
    exact hg.not_isMalformed hgrant

-- ============================================================ accepted

/-- The policy of a text was read from its root. -/
theorem exists_root_of_ofXml {text : String} {p : Policy} (h : ofXml text = .ok p) :
    ∃ root, rootOf? text = some root ∧ IsRoot text root ∧ p.IsReadFrom root := by
  obtain ⟨root, hroot⟩ := exists_rootOf_of_ofXml h
  rw [ofXml_of_root hroot] at h
  obtain ⟨⟨_, s⟩, hpolicy, rfl⟩ := exists_of_map_eq_ok h
  have hclosed := (ensures_readPolicy_closed root _ (fun _ _ => trivial) _ s hpolicy).1
  have htag : ∀ t ∈ [root.tag], t ∈ root.tags := by
    rw [root.tags_eq]
    intro t ht
    rw [List.mem_singleton.1 ht]
    exact List.mem_cons_self ..
  obtain ⟨⟨howner, hgrants⟩, -⟩ := ensures_readPolicy (fun _ ht => ht) _ htag _ s hpolicy
  exact ⟨root, hroot, isRoot_of_root (run_root_eq hroot) hclosed, howner, hgrants⟩

/-- What is read of a text. If it is accepted, its root gives the policy:
a grant for each element for one in its list, in their order, each with
its one grantee and permission, and each optional text where its element
is there. If the root gives a part twice, or a part of it is not as it
has to be, the text is refused. -/
theorem ofXml_reads_root (text : String) :
    (∀ p, ofXml text = .ok p →
      ∃ root, rootOf? text = some root ∧ IsRoot text root ∧ p.IsReadFrom root)
      ∧ ∀ root, rootOf? text = some root → IsMalformed root → ∃ fault, ofXml text = .error fault := by
  refine ⟨fun p h => exists_root_of_ofXml h, fun root hroot hmalformed => ?_⟩
  cases h : ofXml text with
  | error fault => exact ⟨fault, rfl⟩
  | ok p =>
      obtain ⟨root', hroot', -, hread⟩ := exists_root_of_ofXml h
      rw [hroot, Option.some.injEq] at hroot'
      exact absurd (hroot' ▸ hmalformed) hread.not_isMalformed

/-- A policy with an owner and two grants. -/
def sharedPolicy : Policy where
  owner := { id := "owner" }
  grants := [⟨.ofUser "owner" none, .fullControl⟩, ⟨.ofUser "reader" none, .read⟩]

/-- Its document gives exactly these. -/
theorem ofXml_reads_root_sharedPolicy :
    ∃ root, rootOf? sharedPolicy.toXml = some root ∧ IsRoot sharedPolicy.toXml root
      ∧ sharedPolicy.IsReadFrom root := by
  have hread : ofXml sharedPolicy.toXml = .ok sharedPolicy.normalized :=
    ofXml_toXml_eq (by decide)
  rw [show sharedPolicy.normalized = sharedPolicy by decide] at hread
  exact (ofXml_reads_root sharedPolicy.toXml).1 sharedPolicy hread

-- ================================================================ nil

mutual

/-- Whether something in a node is declared to be nil, where each prefix
is bound by the elements around it. -/
def declaresNil (scope : Scope) : Node → Bool
  | .run _ => false
  | .doctype => false
  | .element tag inside _ =>
    tag.isNil (tag :: scope) xsiNamespace || anyDeclaresNil (tag :: scope) inside

/-- Whether something in nodes is declared to be nil. -/
def anyDeclaresNil (scope : Scope) : List Node → Bool
  | [] => false
  | n :: r => declaresNil scope n || anyDeclaresNil scope r

end

/-- The elements of a root for grantees. -/
def granteesOf (root : Element) : List Element :=
  (root.childrenNamed "AccessControlList").flatMap fun list =>
    (list.childrenNamed "Grant").flatMap (·.childrenNamed "Grantee")

/-- A grantee with an id whose attribute is in some other namespace. An
element in front of it binds the prefix to the namespace of nil. -/
def strayDocument : String :=
  "<AccessControlPolicy xmlns:p=\"urn:x\"><AccessControlList><Grant><Grantee>"
    ++ "<Note xmlns:p=\"http://www.w3.org/2001/XMLSchema-instance\">a<b/></Note>"
    ++ "<ID p:nil=\"true\">reader</ID></Grantee><Permission>READ</Permission></Grant>"
    ++ "</AccessControlList></AccessControlPolicy>"

set_option maxRecDepth 10000 in
/-- The one grantee of its root, and what is read of it. -/
theorem rootOf?_strayDocument : ∃ root, rootOf? strayDocument = some root
    ∧ declaresNil [] root.node = false
    ∧ (granteesOf root).map (fun e => (e.childrenNamed "ID").length) = [1]
    ∧ ((readPolicy root).run [root.tag]).toOption.any
        (fun x => x.1.grants.map (·.grantee.id) = [none]) = true :=
  exists_of_any (by decide +kernel)

/-- The id is left out although its element is there and nothing is
declared to be nil. -/
theorem ofXml_strayDocument :
    (∃ root, rootOf? strayDocument = some root ∧ declaresNil [] root.node = false
      ∧ (granteesOf root).map (fun e => (e.childrenNamed "ID").length) = [1])
      ∧ ∃ p, ofXml strayDocument = .ok p ∧ p.grants.map (·.grantee.id) = [none] := by
  obtain ⟨root, hroot, hnil, hone, hread⟩ := rootOf?_strayDocument
  refine ⟨⟨root, hroot, hnil, hone⟩, ?_⟩
  obtain ⟨⟨p, s⟩, hp, hnone⟩ := exists_of_any_toOption hread
  refine ⟨p, ?_, hnone⟩
  rw [ofXml_of_root hroot, hp]
  rfl

end Policy

end BucketAcl
