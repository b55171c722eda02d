/-
Policies that are written and read again. Whatever characters stand in
the texts of a policy, its document is read as the same owner and the
same grants in the same order: no text becomes part of the structure.

Main statement: `ofXml_toXml`.
-/
import BucketAcl.Proofs.Acl.Written
import Mathlib.Data.List.Forall2

namespace BucketAcl

open Xml

open Document

/-- A policy that is written and read again has the texts of its
document, line ends normalized. -/
theorem ofXml_toXml_eq {p : Policy}
    (h : ∀ g ∈ p.grants, g.grantee.schemaInstance = xsiNamespace) :
    Policy.ofXml p.toXml = .ok p.normalized := by
  have hschema : ∀ g ∈ p.normalized.grants, g.grantee.schemaInstance = xsiNamespace :=
    List.forall_mem_map.2 h
  refine (ofXml_of_isDocument hschema (isDocument_toXml p) (isLaidOut_policyAgain p)).1 ?_
  rw [unknownInPolicy_policyAgain]
  exact fun _ hc => nomatch hc

-- =============================================================== kept

/-- A text without a line end other than the line feed. -/
def IsPlain (s : String) : Prop := ∀ c ∈ s.toList, isLineEnd c = false

instance (s : String) : Decidable (IsPlain s) := List.decidableBAll _ _

/-- What becomes of a text: a plain one is as it was, the white space at
its ends included. -/
def TextKept (s t : String) : Prop := IsPlain s → t = s

/-- What becomes of a grantee: its namespace and kind are as they were,
and a text is there if it was there. -/
structure Grantee.Kept (g h : Grantee) : Prop where
  schemaInstance : h.schemaInstance = g.schemaInstance
  type : h.type = g.type
  id : Option.Rel TextKept g.id h.id
  displayName : Option.Rel TextKept g.displayName h.displayName
  uri : Option.Rel TextKept g.uri h.uri
  emailAddress : Option.Rel TextKept g.emailAddress h.emailAddress

/-- What becomes of a grant. -/
structure Grant.Kept (g h : Grant) : Prop where
  grantee : g.grantee.Kept h.grantee
  permission : h.permission = g.permission

/-- What becomes of a policy: the same grants are in the same order. -/
structure Policy.Kept (p q : Policy) : Prop where
  ownerId : TextKept p.owner.id q.owner.id
  ownerDisplayName : Option.Rel TextKept p.owner.displayName q.owner.displayName
  grants : List.Forall₂ Grant.Kept p.grants q.grants

/-- The texts of a grantee. -/
def Grantee.texts (g : Grantee) : List String :=
  g.id.toList ++ g.displayName.toList ++ g.uri.toList ++ g.emailAddress.toList

/-- The texts of a policy. -/
def Policy.texts (p : Policy) : List String :=
  p.owner.id :: p.owner.displayName.toList ++ p.grants.flatMap fun g => g.grantee.texts

theorem textKept_normalizedText (s : String) : TextKept s (normalizedText s) := by
  intro hs
  unfold normalizedText
  rw [Token.normalizeLineEnds_eq_self hs, String.ofList_toList]

theorem rel_textKept_map (text : Option String) :
    Option.Rel TextKept text (text.map normalizedText) := by
  cases text with
  | none => exact .none
  | some s => exact .some (textKept_normalizedText s)

theorem map_normalizedText_eq_self {text : Option String} (h : ∀ s ∈ text.toList, IsPlain s) :
    text.map normalizedText = text := by
  cases text with
  | none => rfl
  | some s => exact congrArg some (textKept_normalizedText s (h s (List.mem_singleton_self s)))

theorem Grant.kept_normalized (g : Grant) : g.Kept g.normalized where
  grantee :=
    { schemaInstance := rfl
      type := rfl
      id := rel_textKept_map _
      displayName := rel_textKept_map _
      uri := rel_textKept_map _
      emailAddress := rel_textKept_map _ }
  permission := rfl

theorem Policy.kept_normalized (p : Policy) : p.Kept p.normalized where
  ownerId := textKept_normalizedText _
  ownerDisplayName := rel_textKept_map _
  grants := by
    show List.Forall₂ Grant.Kept p.grants (p.grants.map Grant.normalized)
    rw [List.forall₂_map_right_iff, List.forall₂_same]
    exact fun g _ => g.kept_normalized

theorem Grant.normalized_eq_self {g : Grant} (h : ∀ s ∈ g.grantee.texts, IsPlain s) :
    g.normalized = g := by
  unfold Grantee.texts at h
  simp only [List.mem_append, or_imp, forall_and] at h
  obtain ⟨⟨⟨hid, hdisplay⟩, huri⟩, hmail⟩ := h
  unfold Grant.normalized Grantee.normalized
  rw [map_normalizedText_eq_self hid, map_normalizedText_eq_self hdisplay,
    map_normalizedText_eq_self huri, map_normalizedText_eq_self hmail]

/-- A policy of plain texts is read as it was. -/
theorem Policy.normalized_eq_self {p : Policy} (h : ∀ s ∈ p.texts, IsPlain s) :
    p.normalized = p := by
  unfold Policy.texts at h
  simp only [List.cons_append, List.mem_cons, List.mem_append, or_imp, forall_and,
    forall_eq] at h
  obtain ⟨hid, hdisplay, hgrants⟩ := h
  have howner : p.owner.normalized = p.owner := by
    unfold Owner.normalized
    rw [textKept_normalizedText _ hid, map_normalizedText_eq_self hdisplay]
  have hlist : p.grants.map Grant.normalized = p.grants := by
    refine (List.map_congr_left fun g hg => ?_).trans (List.map_id _)
    exact Grant.normalized_eq_self fun s hs => hgrants s (List.mem_flatMap.2 ⟨g, hg, hs⟩)
  unfold Policy.normalized
  rw [howner, hlist]

/-- A policy whose grantees are in the namespace that every grantee is
made with comes back from its document: with the same grants in the
same order, each text where it was and as it was but for line ends, and
altogether as it was if its texts are plain. -/
theorem ofXml_toXml {p : Policy} (h : ∀ g ∈ p.grants, g.grantee.schemaInstance = xsiNamespace) :
    ∃ q, Policy.ofXml p.toXml = .ok q ∧ p.Kept q ∧ ((∀ s ∈ p.texts, IsPlain s) → q = p) :=
  ⟨p.normalized, ofXml_toXml_eq h, p.kept_normalized, Policy.normalized_eq_self⟩

/-- A policy whose texts are markup. -/
def markupPolicy : Policy where
  owner := { id := "</ID></Owner>", displayName := some "" }
  grants :=
    [ ⟨.ofUser " ]]>&amp;\"'\n" (some "<!--"), .read⟩,
      ⟨.ofGroup "</URI></Grantee><Permission>FULL_CONTROL</Permission>", .writeAcp⟩ ]

theorem ofXml_toXml_markupPolicy : Policy.ofXml markupPolicy.toXml = .ok markupPolicy := by
  have h : ∀ g ∈ markupPolicy.grants, g.grantee.schemaInstance = xsiNamespace := by decide
  have hplain : ∀ s ∈ markupPolicy.texts, IsPlain s := by decide
  obtain ⟨q, hq, _, hsame⟩ := ofXml_toXml h
  rw [hq, hsame hplain]

end BucketAcl
