/-
Changes to the document of a policy that make no difference to it. Each
of them is made inside one element: white space or comments between the
tags, an element of another name, another order of the elements, or such
a change inside one of these. A change keeps what an element lays out,
from the grantees outwards, and so do as many of them as one likes.

Main statement: `Policy.IsLaidOut.edits`.
-/
import BucketAcl.Proofs.Acl.Layout
import Mathlib.Logic.Relation

namespace BucketAcl

open Xml

namespace Document

-- ============================================================= changes

/-- What may be done to the elements in one that is read for some fields.
No name of an element has an `@` in it. -/
inductive AreEdited (fields : List String) (inner : Element → Element → Prop) :
    List Element → List Element → Prop where
  /-- An element that is read for none of the fields is put in. -/
  | insert (before after : List Element) {c : Element} (hname : '@' ∉ c.tag.name.toList)
      (hother : c.field ∉ fields) : AreEdited fields inner (before ++ after) (before ++ c :: after)
  /-- The elements are put in another order, or stay in theirs. -/
  | reorder {cs cs' : List Element} (h : cs'.Perm cs) : AreEdited fields inner cs cs'
  /-- Some of the elements are changed. -/
  | within {cs cs' : List Element} (h : List.Forall₂ (fun c c' => c' = c ∨ inner c c') cs cs') :
      AreEdited fields inner cs cs'

/-- A change inside an element that is read for some field. Between the
tags there is white space then, as much as one likes; comments are no
part of an element. -/
structure IsEdit (field : String) (change : List Element → List Element → Prop)
    (e e' : Element) : Prop where
  field : e.field = field
  tag : e'.tag = e.tag
  children : change e.children e'.children
  blank : ∀ pieces, .run pieces ∈ e'.inside → (Node.run pieces).IsBlank

/-- A change inside an owner. -/
abbrev OwnerEdit : Element → Element → Prop :=
  IsEdit "Owner" (AreEdited ["ID", "DisplayName"] fun _ _ => False)

/-- A change inside a grantee. -/
abbrev GranteeEdit : Element → Element → Prop :=
  IsEdit "Grantee" (AreEdited ["ID", "DisplayName", "URI", "EmailAddress"] fun _ _ => False)

/-- A change inside a grant. -/
abbrev GrantEdit : Element → Element → Prop :=
  IsEdit "Grant" (AreEdited ["Grantee", "Permission"] GranteeEdit)

/-- A change inside the list of the grants. Their order stays, and
nothing is put between them but white space. -/
abbrev GrantsEdit : Element → Element → Prop :=
  IsEdit "AccessControlList" (List.Forall₂ fun c c' => c' = c ∨ GrantEdit c c')

/-- A change inside the root of a policy, or to the namespace that it
names. -/
inductive PolicyEdit (root root' : Element) : Prop where
  | inside (h : IsEdit "AccessControlPolicy" (AreEdited ["Owner", "AccessControlList"]
      fun c c' => OwnerEdit c c' ∨ GrantsEdit c c') root root')
  | namespaceNamed (uri : List Char) (hname : root'.tag.name = root.tag.name)
      (hrest : Attribute.AreSpelled [⟨"xmlns", uri⟩] root'.tag.rest)
      (hinside : root'.inside = root.inside)

-- ================================================================ kept

section

variable {α β : Type} {P : α → β → Prop} {change : β → β → Prop}

/-- The one source of a field may stand wherever it likes. -/
theorem Filled.of_perm {value : Option α} {sources sources' : List β} (h : Filled P value sources)
    (hperm : sources'.Perm sources) : Filled P value sources' := by
  cases value with
  | none =>
      cases h
      rw [hperm.eq_nil]
      exact .nil
  | some a =>
      obtain _ | ⟨hx, hnil⟩ := h
      cases hnil
      rw [List.perm_singleton.1 hperm]
      exact .cons hx .nil

/-- What holds of each of some elements still does when some of them were
changed, if each change keeps it. -/
theorem forall₂_of_changed {values : List α} {xs ys : List β} (h : List.Forall₂ P values xs)
    (hchanged : List.Forall₂ (fun x y => y = x ∨ change x y) xs ys)
    (hkeep : ∀ a, ∀ x ∈ xs, ∀ y, change x y → P a x → P a y) : List.Forall₂ P values ys := by
  induction h generalizing ys with
  | nil =>
      cases hchanged
      exact .nil
  | cons hx _ ih =>
      obtain _ | ⟨hxy, hrest⟩ := hchanged
      refine .cons ?_ (ih hrest fun a x hmem => hkeep a x (List.mem_cons_of_mem _ hmem))
      rcases hxy with rfl | hxy
      · exact hx
      · exact hkeep _ _ (List.mem_cons_self ..) _ hxy hx

end

section

variable {fields : List String} {inner : Element → Element → Prop} {cs cs' : List Element}

/-- The sources of a field still give it when the elements around them
were edited. -/
theorem AreEdited.filled (h : AreEdited fields inner cs cs')
    (hfield : ∀ c c', inner c c' → c'.field = c.field) {name : String} (hname : name ∈ fields)
    {α : Type} {P : α → Element → Prop} {value : Option α}
    (hkeep : ∀ a c c', c.field = name → inner c c' → P a c → P a c')
    (hfilled : Filled P value (cs.filter (·.field = name))) :
    Filled P value (cs'.filter (·.field = name)) := by
  cases h with
  | @insert before after c hat hother =>
      have hne : c.field ≠ name := fun h => hother (h.symm ▸ hname)
      have hdrop : (c :: after).filter (·.field = name) = after.filter (·.field = name) :=
        List.filter_cons_of_neg fun h => hne (of_decide_eq_true h)
      rw [List.filter_append] at hfilled
      rw [List.filter_append, hdrop]
      exact hfilled
  | reorder hperm => exact hfilled.of_perm (hperm.filter _)
  | within heach =>
      have hsame {c c' : Element} (h : c' = c ∨ inner c c') :
          decide (c.field = name) = true ↔ decide (c'.field = name) = true := by
        rcases h with rfl | h
        · rfl
        · rw [hfield c c' h]
      refine forall₂_of_changed hfilled (List.rel_filter (fun _ _ h => hsame h) heach) ?_
      exact fun a c hc c' h => hkeep a c c' (of_decide_eq_true (List.mem_filter.1 hc).2) h

/-- Each element was there before the change, or it was put in, or was
changed itself. -/
theorem AreEdited.mem (h : AreEdited fields inner cs cs') {c' : Element} (hc : c' ∈ cs') :
    c' ∈ cs ∨ '@' ∉ c'.tag.name.toList ∨ ∃ c ∈ cs, inner c c' := by
  cases h with
  | insert before after hat hother =>
      rcases List.mem_append.1 hc with hc | hc
      · exact .inl (List.mem_append_left _ hc)
      · rcases List.mem_cons.1 hc with rfl | hc
        · exact .inr (.inl hat)
        · exact .inl (List.mem_append_right _ hc)
  | reorder hperm => exact .inl (hperm.subset hc)
  | within heach =>
      obtain ⟨c, hmem, rfl | h⟩ := exists_of_forall₂_of_mem heach hc
      · exact .inl hmem
      · exact .inr (.inr ⟨c, hmem, h⟩)

end

theorem IsEdit.field_eq {field : String} {change : List Element → List Element → Prop}
    {e e' : Element} (h : IsEdit field change e e') : e'.field = e.field :=
  congrArg (fun tag : Tag => localName tag.name) h.tag

/-- The characters of a local name are some of those of the name. -/
theorem mem_localName {name : String} {c : Char} (h : c ∈ (localName name).toList) :
    c ∈ name.toList := by
  unfold localName at h
  split at h
  · rename_i a r hcut
    rw [(Text.eq_of_cutAt hcut).1]
    rw [String.toList_ofList] at h
    exact List.mem_append_right _ (List.mem_cons_of_mem _ h)
  · exact h

end Document

open Document

-- ============================================================= layouts

/-- An owner stays laid out. -/
theorem Owner.IsLaidOut.edit {o : Owner} {e e' : Element} (h : o.IsLaidOut e)
    (hedit : OwnerEdit e e') : o.IsLaidOut e' where
  tag := hedit.tag.trans h.tag
  id := hedit.children.filled (fun _ _ h => h.elim) (by decide) (fun _ _ _ _ h => h.elim) h.id
  displayName := hedit.children.filled (fun _ _ h => h.elim) (by decide) (fun _ _ _ _ h => h.elim)
    h.displayName

/-- A grantee stays laid out. -/
theorem Grantee.IsLaidOut.edit {g : Grantee} {e e' : Element} (h : g.IsLaidOut e)
    (hedit : GranteeEdit e e') : g.IsLaidOut e' where
  tag := hedit.tag.trans h.tag
  text field := hedit.children.filled (fun _ _ h => h.elim) (TextField.mem_names_iff.2 ⟨field, rfl⟩)
    (fun _ _ _ _ h => h.elim) (h.text field)
  elements c hc := by
    rcases hedit.children.mem hc with hc | hat | ⟨_, _, hno⟩
    · exact h.elements c hc
    · have hall : ∀ name ∈ ["@xmlns:xsi", "@type", "@xsi:type"], '@' ∈ name.toList := by decide
      exact fun hmem => hat (mem_localName (hall _ hmem))
    · exact hno.elim

/-- A grant stays laid out. -/
theorem Grant.IsLaidOut.edit {g : Grant} {e e' : Element} (h : g.IsLaidOut e)
    (hedit : GrantEdit e e') : g.IsLaidOut e' where
  tag := hedit.tag.trans h.tag
  grantee := hedit.children.filled (fun _ _ h => h.field_eq) (by decide)
    (fun _ _ _ _ hedit hlaid => Grantee.IsLaidOut.edit hlaid hedit) h.grantee
  permission := by
    refine hedit.children.filled (fun _ _ h => h.field_eq) (by decide) ?_ h.permission
    intro _ c _ hname hgrantee
    rw [hgrantee.field] at hname
    exact absurd hname (by decide)

/-- Grants stay laid out. -/
theorem Grant.AreLaidOut.edit {gs : List Grant} {e e' : Element} (h : Grant.AreLaidOut gs e)
    (hedit : GrantsEdit e e') : Grant.AreLaidOut gs e' where
  tag := hedit.tag.trans h.tag
  each := forall₂_of_changed h.each hedit.children fun _ _ _ _ hedit hlaid => hlaid.edit hedit
  blank := hedit.blank

/-- A policy stays laid out when the document is changed in one place. -/
theorem Policy.IsLaidOut.edit {p : Policy} {root root' : Element} (h : p.IsLaidOut root)
    (hedit : PolicyEdit root root') : p.IsLaidOut root' := by
  cases hedit with
  | inside hedit =>
      have hfield : ∀ c c' : Element, OwnerEdit c c' ∨ GrantsEdit c c' → c'.field = c.field := by
        rintro c c' (h | h)
        · exact h.field_eq
        · exact h.field_eq
      refine ⟨(congrArg Tag.name hedit.tag).trans h.name, hedit.tag ▸ h.rest, ?_, ?_⟩
      · refine hedit.children.filled hfield (by decide) ?_ h.owner
        rintro o c c' hname (howner | hgrants) hlaid
        · exact Owner.IsLaidOut.edit hlaid howner
        · rw [hgrants.field] at hname
          exact absurd hname (by decide)
      · refine hedit.children.filled hfield (by decide) ?_ h.grants
        rintro gs c c' hname (howner | hgrants) hlaid
        · rw [howner.field] at hname
          exact absurd hname (by decide)
        · exact Grant.AreLaidOut.edit hlaid hgrants
  | namespaceNamed uri hname hrest hinside =>
      have hchildren (name : String) : root'.childrenNamed name = root.childrenNamed name := by
        unfold Element.childrenNamed Element.children
        rw [hinside]
      exact ⟨hname.trans h.name, ⟨_, hrest, .inr ⟨uri, rfl⟩⟩, hchildren _ ▸ h.owner,
        hchildren _ ▸ h.grants⟩

/-- A policy stays laid out however the document is changed. -/
theorem Policy.IsLaidOut.edits {p : Policy} {root root' : Element} (h : p.IsLaidOut root)
    (hedits : Relation.ReflTransGen PolicyEdit root root') : p.IsLaidOut root' := by
  induction hedits with
  | refl => exact h
  | tail _ hedit ih => exact ih.edit hedit

end BucketAcl
