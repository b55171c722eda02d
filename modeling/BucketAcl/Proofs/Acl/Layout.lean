/-
How a policy may be laid out in a document. The parts of it may stand in
any order, with white space, comments and elements of other names around
them. None of this makes a difference to what is read, as long as the
elements that are passed over bind no prefix against the rules.

Main statement: `ofXml_of_isDocument`.
-/
import BucketAcl.Proofs.Acl.ReadFrom
import BucketAcl.Proofs.Xml.Passing

namespace BucketAcl

open Xml

-- ============================================================= layouts

/-- An element of some name that holds a text. -/
structure Xml.Element.IsTextOf (name text : String) (e : Element) : Prop where
  tag : e.tag = ⟨name, []⟩
  holds : e.HoldsText text

/-- A node that is white space. -/
def Xml.Node.IsBlank (n : Node) : Prop :=
  ∃ pieces cs, n = .run pieces ∧ resolveRun pieces = .ok cs ∧ cs.all isSpace = true

open Document

/-- An element that an owner is laid out in: it has its id and its name,
if there is one, and whatever other elements. -/
structure Owner.IsLaidOut (o : Owner) (e : Element) : Prop where
  tag : e.tag = ⟨"Owner", []⟩
  id : Filled (Element.IsTextOf "ID") (some o.id) (e.childrenNamed "ID")
  displayName : Filled (Element.IsTextOf "DisplayName") o.displayName
    (e.childrenNamed "DisplayName")

/-- An element that a grantee is laid out in. Inside of it no element is
named like an attribute, as no name does begin with `@`. -/
structure Grantee.IsLaidOut (g : Grantee) (e : Element) : Prop where
  tag : e.tag = writtenTag "Grantee" (granteeAttributes g)
  text : ∀ field : TextField,
    Filled (Element.IsTextOf field.name) (field.textOf g) (e.childrenNamed field.name)
  elements : ∀ c ∈ e.children, c.field ∉ ["@xmlns:xsi", "@type", "@xsi:type"]

/-- An element that a grant is laid out in. -/
structure Grant.IsLaidOut (g : Grant) (e : Element) : Prop where
  tag : e.tag = ⟨"Grant", []⟩
  grantee : Filled Grantee.IsLaidOut (some g.grantee) (e.childrenNamed "Grantee")
  permission : Filled (Element.IsTextOf "Permission") (some g.permission.name)
    (e.childrenNamed "Permission")

/-- An element that grants are laid out in: they stand in their order,
with nothing but white space between them. -/
structure Grant.AreLaidOut (gs : List Grant) (e : Element) : Prop where
  tag : e.tag = ⟨"AccessControlList", []⟩
  each : List.Forall₂ Grant.IsLaidOut gs e.children
  blank : ∀ pieces, .run pieces ∈ e.inside → (Node.run pieces).IsBlank

/-- A root that a policy is laid out in. It may name a namespace for the
names that have no prefix. -/
structure Policy.IsLaidOut (p : Policy) (root : Element) : Prop where
  name : root.tag.name = "AccessControlPolicy"
  rest : ∃ as, Attribute.AreSpelled as root.tag.rest ∧ (as = [] ∨ ∃ uri, as = [⟨"xmlns", uri⟩])
  owner : Filled Owner.IsLaidOut (some p.owner) (root.childrenNamed "Owner")
  grants : Filled Grant.AreLaidOut (some p.grants) (root.childrenNamed "AccessControlList")

/-- A text that is a document with some root: in front of this there is
nothing but white space, comments and instructions. -/
structure IsDocument (text : String) (root : Element) : Prop where
  mark : text.toList.head? ≠ some '\ufeff'
  spells : ∃ before after, Spells text.toList (before ++ root.node :: after)
    ∧ ∀ n ∈ before, n.IsBlank

namespace Document

-- ============================================================= unknown

/-- The elements in one for an owner that an owner has no place for. -/
def unknownInOwner (e : Element) : List Element :=
  e.children.filter fun c => c.field ∉ ["ID", "DisplayName"]

/-- The elements in one for a grantee that a grantee has no place for. -/
def unknownInGrantee (e : Element) : List Element :=
  e.children.filter fun c => c.field ∉ ["ID", "DisplayName", "URI", "EmailAddress"]

/-- The elements in one for a grant, and in its grantee, that these have
no place for. -/
def unknownInGrant (e : Element) : List Element :=
  e.children.flatMap fun c =>
    if c.field = "Grantee" then unknownInGrantee c
    else if c.field = "Permission" then []
    else [c]

/-- The elements in a root, and in the parts of a policy, that these have
no place for. -/
def unknownInPolicy (root : Element) : List Element :=
  root.children.flatMap fun c =>
    if c.field = "Owner" then unknownInOwner c
    else if c.field = "AccessControlList" then c.children.flatMap unknownInGrant
    else [c]

-- ============================================================== filled

variable {α β σ : Type} {P : α → β → Prop}

/-- Where there is a source, it has the value. -/
theorem Filled.exists_of_mem {value : Option α} {sources : List β} (h : Filled P value sources)
    {x : β} (hx : x ∈ sources) : ∃ a, value = some a ∧ P a x := by
  obtain ⟨a, ha, hP⟩ := exists_of_forall₂_of_mem h hx
  exact ⟨a, Option.mem_toList.1 ha, hP⟩

theorem Filled.length_le {value : Option α} {sources : List β} (h : Filled P value sources) :
    sources.length ≤ 1 := by
  rw [← List.Forall₂.length_eq h]
  exact Option.length_toList_le

/-- A child is one of those of its field. -/
theorem mem_childrenNamed {e c : Element} (hc : c ∈ e.children) {name : String}
    (hname : c.field = name) : c ∈ e.childrenNamed name :=
  List.mem_filter.2 ⟨hc, decide_eq_true hname⟩

/-- What is known of a field, once children for some fields were read. -/
def known (value : Option α) (name : String) (done : List String) : Option α :=
  if name ∈ done then value else none

theorem known_of_not_mem {value : Option α} {name : String} {done : List String}
    (h : name ∉ done) : known value name done = none := if_neg h

theorem known_append_self (value : Option α) (name : String) (done : List String) :
    known value name (done ++ [name]) = value :=
  if_pos (List.mem_append_right _ (List.mem_singleton_self name))

theorem known_append_of_ne {name other : String} (h : name ≠ other) (value : Option α)
    (done : List String) : known value name (done ++ [other]) = known value name done := by
  unfold known
  simp [h]

/-- In the end the value of a field is known, if there is one. -/
theorem known_children {P : α → Element → Prop} {value : Option α} {name : String} {e : Element}
    (h : Filled P value (e.childrenNamed name)) (f : α → β) :
    known (value.map f) name (e.children.map Element.field) = value.map f := by
  cases value with
  | none => exact ite_self _
  | some a =>
      obtain ⟨c, hc, -⟩ := h.exists_of_some rfl
      have hmem : c ∈ e.childrenNamed name := hc ▸ List.mem_singleton_self c
      obtain ⟨hchild, hname⟩ := List.mem_filter.1 hmem
      exact if_pos (List.mem_map.2 ⟨c, hchild, of_decide_eq_true hname⟩)

end Document

-- =============================================================== texts

namespace Xml.Element.IsTextOf

variable {name text : String} {e : Element}

theorem checkBindings (h : e.IsTextOf name text) : e.tag.checkBindings = .ok () := by
  rw [h.tag]
  exact checkBindings_bare name

theorem yields_text (h : e.IsTextOf name text) (he : e.node.IsReadable) : Yields e.text text :=
  yields_of_holdsText (ending_of_isReadable he) h.holds

theorem yields_optionalText (h : e.IsTextOf name text) (he : e.node.IsReadable) {parent : Tag}
    (hp : ∀ scope uri, parent.isNil scope uri = false) :
    Yields (e.optionalText parent) (some text) := by
  refine Xml.yields_optionalText ?_ hp (h.yields_text he)
  rw [h.tag]
  exact isNil_bare name

end Xml.Element.IsTextOf

namespace Document

variable {σ : Type}

/-- A child that a value is read of, whose own tag binds nothing, is
visited if what is inside of it is passed over. -/
theorem givesIf_visit {onText : σ → List Char → Reading σ} {onChild : σ → Element → Reading σ}
    {s t : σ} {c : Element} (hb : c.tag.checkBindings = .ok ()) {P : Prop}
    (h : GivesIf P (onChild s c) t) : GivesIf P (Node.visit onText onChild s c.node) t :=
  h.visit.congr (and_iff_right (checkBindings_eq_ok_iff.1 hb))

-- =============================================================== owner

namespace OwnerFields

/-- What is read of an owner, once children for some fields were read. -/
def ofOwner (o : Owner) (done : List String) : OwnerFields where
  id := known (some o.id) "ID" done
  displayName := known (o.displayName.map some) "DisplayName" done

theorem ofOwner_id (o : Owner) (done : List String) :
    ofOwner o (done ++ ["ID"]) = { ofOwner o done with id := some o.id } := by
  unfold ofOwner
  rw [known_append_self, known_append_of_ne (by decide)]

theorem ofOwner_displayName (o : Owner) (done : List String) :
    ofOwner o (done ++ ["DisplayName"])
      = { ofOwner o done with displayName := o.displayName.map some } := by
  unfold ofOwner
  rw [known_append_self, known_append_of_ne (by decide)]

theorem ofOwner_other {name : String} (h : name ∉ ["ID", "DisplayName"]) (o : Owner)
    (done : List String) : ofOwner o (done ++ [name]) = ofOwner o done := by
  rw [List.mem_pair, not_or] at h
  unfold ofOwner
  rw [known_append_of_ne (Ne.symm h.1), known_append_of_ne (Ne.symm h.2)]

theorem child_of_other {e : Element} (h : e.field ∉ ["ID", "DisplayName"]) (parent : Tag)
    (f : OwnerFields) :
    child parent f e = (do
      e.skip
      return f) := by
  rw [List.mem_pair, not_or] at h
  unfold child
  split
  · rename_i hid
    exact absurd hid h.1
  · rename_i hdisplay
    exact absurd hdisplay h.2
  · rfl

/-- A child of an owner is read, or passed over. -/
theorem givesIf_visit {o : Owner} {e c : Element} (h : o.IsLaidOut e) (he : e.node.IsReadable)
    (hc : c ∈ e.children) {done : List String}
    (hdone : c.field ∈ ["ID", "DisplayName"] → c.field ∉ done) :
    GivesIf (c.field ∉ ["ID", "DisplayName"] → c.IsPassable)
      (Node.visit (fun s _ => pure s) (child e.tag) (ofOwner o done) c.node)
      (ofOwner o (done ++ [c.field])) := by
  have hread := Element.isReadable_of_mem_children he hc
  by_cases hid : c.field = "ID"
  · obtain ⟨_, ⟨⟩, htext⟩ := h.id.exists_of_mem (mem_childrenNamed hc hid)
    have hnone : (ofOwner o done).id = none := known_of_not_mem (hid ▸ hdone (by simp [hid]))
    refine (GivesIf.ofYields (yields_visit htext.checkBindings ?_)).congr
      (iff_of_true trivial fun hno => absurd (by simp [hid]) hno)
    rw [child_of_id hid, hnone, hid, ofOwner_id]
    exact (htext.yields_text hread).once "ID" |>.bind (.pure _)
  by_cases hdisplay : c.field = "DisplayName"
  · obtain ⟨text, hsome, htext⟩ := h.displayName.exists_of_mem (mem_childrenNamed hc hdisplay)
    have hnone : (ofOwner o done).displayName = none :=
      known_of_not_mem (hdisplay ▸ hdone (by simp [hdisplay]))
    have hnil : ∀ scope uri, e.tag.isNil scope uri = false := by
      rw [h.tag]
      exact isNil_bare "Owner"
    refine (GivesIf.ofYields (yields_visit htext.checkBindings ?_)).congr
      (iff_of_true trivial fun hno => absurd (by simp [hdisplay]) hno)
    rw [child_of_displayName hdisplay, hnone, hdisplay, ofOwner_displayName, hsome]
    exact (htext.yields_optionalText hread hnil).once "DisplayName" |>.bind (.pure _)
  · have hother : c.field ∉ ["ID", "DisplayName"] := by simp [hid, hdisplay]
    rw [ofOwner_other hother]
    exact (Element.givesIf_visit_skip hread (child_of_other hother _ _)).congr
      (imp_iff_right hother).symm

/-- In the end all of an owner is known. -/
theorem ofOwner_children {o : Owner} {e : Element} (h : o.IsLaidOut e) :
    ofOwner o (e.children.map Element.field)
      = { id := some o.id, displayName := o.displayName.map some } := by
  have hid : known (some o.id) "ID" _ = some o.id := known_children h.id fun x => x
  unfold ofOwner
  rw [hid, known_children h.displayName some]

end OwnerFields

theorem givesIf_readOwner {o : Owner} {e : Element} (h : o.IsLaidOut e) (he : e.node.IsReadable) :
    GivesIf (∀ c ∈ unknownInOwner e, c.IsPassable) (readOwner e) o := by
  have hone : ∀ name ∈ ["ID", "DisplayName"], (e.childrenNamed name).length ≤ 1 :=
    List.forall_mem_cons.2 ⟨h.id.length_le, List.forall_mem_singleton.2 h.displayName.length_le⟩
  have hfold := Element.givesIf_fold (t := OwnerFields.ofOwner o) he
    (yields_foldAttributes_bare h.tag (fun f _ => pure f) ({} : OwnerFields))
    hone fun done c hc hdone => OwnerFields.givesIf_visit h he hc hdone
  have howner : o = { id := (some o.id).getD ""
                      displayName := (o.displayName.map some).getD none } := by
    obtain ⟨id, displayName⟩ := o
    cases displayName <;> rfl
  rw [OwnerFields.ofOwner_children h] at hfold
  unfold readOwner unknownInOwner
  simp only [List.forall_mem_filter, decide_eq_true_eq]
  conv => arg 3; rw [howner]
  exact hfold.followed (.pure _)

-- ============================================================= grantee

namespace TextField

/-- The names of the elements of the fields. -/
theorem mem_names_iff {name : String} :
    name ∈ ["ID", "DisplayName", "URI", "EmailAddress"] ↔ ∃ field : TextField, name = field.name := by
  constructor
  · intro h
    simp only [List.mem_cons, List.not_mem_nil, or_false] at h
    rcases h with h | h | h | h
    · exact ⟨.id, h⟩
    · exact ⟨.displayName, h⟩
    · exact ⟨.uri, h⟩
    · exact ⟨.emailAddress, h⟩
  · rintro ⟨field, rfl⟩
    cases field <;> decide

end TextField

namespace GranteeFields

/-- What is read of a text of a grantee, once children for some fields
were read. -/
def knownText (g : Grantee) (done : List String) (field : TextField) : Option (Option String) :=
  known ((field.textOf g).map some) field.name done

/-- What is read of a grantee, once children for some fields were read. -/
def ofGrantee (g : Grantee) (done : List String) : GranteeFields where
  schemaInstance := some g.schemaInstance
  type := some g.type
  id := knownText g done .id
  displayName := knownText g done .displayName
  uri := knownText g done .uri
  emailAddress := knownText g done .emailAddress

theorem get_ofGrantee (field : TextField) (g : Grantee) (done : List String) :
    field.get (ofGrantee g done) = knownText g done field := by
  cases field <;> rfl

theorem ofGrantee_field (field : TextField) (g : Grantee) (done : List String) :
    ofGrantee g (done ++ [field.name])
      = field.set (ofGrantee g done) ((field.textOf g).map some) := by
  have hself : knownText g (done ++ [field.name]) field = (field.textOf g).map some :=
    known_append_self _ field.name done
  have hsame {other : TextField} (h : other ≠ field) :
      knownText g (done ++ [field.name]) other = knownText g done other :=
    known_append_of_ne (fun hname => h (TextField.name_inj hname)) _ done
  unfold ofGrantee
  cases field <;> simp [TextField.set, hself, hsame]

theorem ofGrantee_other {name : String} (h : ∀ field : TextField, name ≠ field.name) (g : Grantee)
    (done : List String) : ofGrantee g (done ++ [name]) = ofGrantee g done := by
  have hsame (field : TextField) : knownText g (done ++ [name]) field
      = knownText g done field := known_append_of_ne (Ne.symm (h field)) _ done
  unfold ofGrantee
  simp only [hsame]

/-- A child that is named like no attribute and like no text is passed
over. -/
theorem child_eq_skip {e : Element} (htext : ∀ field : TextField, e.field ≠ field.name)
    (hput : e.field ∉ ["@xmlns:xsi", "@type", "@xsi:type"]) (parent : Tag) (f : GranteeFields) :
    child parent f e = (do
      e.skip
      return f) := by
  simp only [List.mem_cons, List.not_mem_nil, or_false, not_or] at hput
  have hnone : f.put e.field e.text = none := by
    unfold put
    split
    · rename_i h
      exact absurd h hput.1
    · rename_i h
      exact absurd h hput.2.1
    · rename_i h
      exact absurd h hput.2.2
    · rfl
  rw [child_of_other htext, hnone]

/-- A child of a grantee is read, or passed over. -/
theorem givesIf_visit {g : Grantee} {e c : Element} (h : g.IsLaidOut e) (he : e.node.IsReadable)
    (hc : c ∈ e.children) {done : List String}
    (hdone : c.field ∈ ["ID", "DisplayName", "URI", "EmailAddress"] → c.field ∉ done) :
    GivesIf (c.field ∉ ["ID", "DisplayName", "URI", "EmailAddress"] → c.IsPassable)
      (Node.visit (fun s _ => pure s) (child e.tag) (ofGrantee g done) c.node)
      (ofGrantee g (done ++ [c.field])) := by
  have hread := Element.isReadable_of_mem_children he hc
  rw [TextField.mem_names_iff] at hdone ⊢
  by_cases hname : ∃ field : TextField, c.field = field.name
  · obtain ⟨field, hfield⟩ := hname
    obtain ⟨text, hsome, htext⟩ := (h.text field).exists_of_mem (mem_childrenNamed hc hfield)
    have hnone : field.get (ofGrantee g done) = none := by
      rw [get_ofGrantee]
      exact known_of_not_mem (hfield ▸ hdone ⟨field, hfield⟩)
    have hnil : ∀ scope uri, e.tag.isNil scope uri = false := by
      rw [h.tag]
      exact isNil_grantee g
    refine (GivesIf.ofYields (yields_visit htext.checkBindings ?_)).congr
      (iff_of_true trivial fun hno => absurd ⟨field, hfield⟩ hno)
    rw [TextField.child_eq hfield, hnone, hfield, ofGrantee_field, hsome]
    exact (htext.yields_optionalText hread hnil).once field.name |>.bind (.pure _)
  · have hother : ∀ field : TextField, c.field ≠ field.name := fun field hf => hname ⟨field, hf⟩
    rw [ofGrantee_other hother]
    exact (Element.givesIf_visit_skip hread (child_eq_skip hother (h.elements c hc) _ _)).congr
      (imp_iff_right hname).symm

/-- In the end all texts of a grantee are known. -/
theorem ofGrantee_children {g : Grantee} {e : Element} (h : g.IsLaidOut e) :
    ofGrantee g (e.children.map Element.field)
      = { schemaInstance := some g.schemaInstance, type := some g.type
          id := g.id.map some, displayName := g.displayName.map some
          uri := g.uri.map some, emailAddress := g.emailAddress.map some } := by
  have htext (field : TextField) : knownText g (e.children.map Element.field) field
      = (field.textOf g).map some := known_children (h.text field) some
  unfold ofGrantee
  simp only [htext]
  rfl

end GranteeFields

theorem givesIf_readGrantee {g : Grantee} {e : Element} (h : g.IsLaidOut e)
    (he : e.node.IsReadable) :
    GivesIf (∀ c ∈ unknownInGrantee e, c.IsPassable) (readGrantee e) g := by
  have hone : ∀ name ∈ ["ID", "DisplayName", "URI", "EmailAddress"],
      (e.childrenNamed name).length ≤ 1 := by
    intro name hname
    obtain ⟨field, rfl⟩ := TextField.mem_names_iff.1 hname
    exact (h.text field).length_le
  have hattributes : Yields (e.foldAttributes GranteeFields.ofAttribute {})
      (GranteeFields.ofGrantee g []) := by
    unfold Element.foldAttributes
    rw [h.tag]
    exact yields_granteeAttributes g []
  have hfold := Element.givesIf_fold (t := GranteeFields.ofGrantee g) he hattributes hone
    fun done c hc hdone => GranteeFields.givesIf_visit h he hc hdone
  have hgrantee : g = {
      schemaInstance := (some g.schemaInstance).getD xsiNamespace
      type := (some g.type).getD .canonicalUser
      id := (g.id.map some).getD none
      displayName := (g.displayName.map some).getD none
      uri := (g.uri.map some).getD none
      emailAddress := (g.emailAddress.map some).getD none } := by
    have hoption (t : Option String) : (t.map some).getD none = t := by cases t <;> rfl
    simp only [hoption]
    rfl
  rw [GranteeFields.ofGrantee_children h] at hfold
  unfold readGrantee unknownInGrantee
  simp only [List.forall_mem_filter, decide_eq_true_eq]
  conv => arg 3; rw [hgrantee]
  exact hfold.followed (.pure _)

-- =============================================================== grant

namespace GrantFields

/-- What is read of a grant, once children for some fields were read. -/
def ofGrant (g : Grant) (done : List String) : GrantFields where
  grantee := known (some g.grantee) "Grantee" done
  permission := known (some g.permission) "Permission" done

theorem ofGrant_grantee (g : Grant) (done : List String) :
    ofGrant g (done ++ ["Grantee"]) = { ofGrant g done with grantee := some g.grantee } := by
  unfold ofGrant
  rw [known_append_self, known_append_of_ne (by decide)]

theorem ofGrant_permission (g : Grant) (done : List String) :
    ofGrant g (done ++ ["Permission"]) = { ofGrant g done with permission := some g.permission } := by
  unfold ofGrant
  rw [known_append_self, known_append_of_ne (by decide)]

theorem ofGrant_other {name : String} (hgrantee : name ≠ "Grantee") (hpermission : name ≠ "Permission")
    (g : Grant) (done : List String) : ofGrant g (done ++ [name]) = ofGrant g done := by
  unfold ofGrant
  rw [known_append_of_ne (Ne.symm hgrantee), known_append_of_ne (Ne.symm hpermission)]

theorem child_of_other {e : Element} (hgrantee : e.field ≠ "Grantee")
    (hpermission : e.field ≠ "Permission") (f : GrantFields) :
    f.child e = (do
      e.skip
      return f) := by
  unfold child
  split
  · rename_i h
    exact absurd h hgrantee
  · rename_i h
    exact absurd h hpermission
  · rfl

/-- A child of a grant is read, or passed over. -/
theorem givesIf_visit {g : Grant} (hschema : g.grantee.schemaInstance = xsiNamespace)
    {e c : Element} (h : g.IsLaidOut e) (he : e.node.IsReadable) (hc : c ∈ e.children)
    {done : List String} (hdone : c.field ∈ ["Grantee", "Permission"] → c.field ∉ done) :
    GivesIf (∀ d ∈ (if c.field = "Grantee" then unknownInGrantee c
        else if c.field = "Permission" then [] else [c]), d.IsPassable)
      (Node.visit (fun s _ => pure s) child (ofGrant g done) c.node)
      (ofGrant g (done ++ [c.field])) := by
  have hread := Element.isReadable_of_mem_children he hc
  by_cases hgrantee : c.field = "Grantee"
  · obtain ⟨_, ⟨⟩, hlaid⟩ := h.grantee.exists_of_mem (mem_childrenNamed hc hgrantee)
    have hnone : (ofGrant g done).grantee = none :=
      known_of_not_mem (hgrantee ▸ hdone (by simp [hgrantee]))
    have hbindings : c.tag.checkBindings = .ok () := by
      rw [hlaid.tag]
      exact checkBindings_grantee hschema
    rw [if_pos hgrantee]
    refine Document.givesIf_visit hbindings ?_
    rw [child_of_grantee hgrantee, hnone, hgrantee, ofGrant_grantee]
    exact (givesIf_readGrantee hlaid hread).once "Grantee" |>.followed (.pure _)
  rw [if_neg hgrantee]
  by_cases hpermission : c.field = "Permission"
  · obtain ⟨_, ⟨⟩, htext⟩ := h.permission.exists_of_mem (mem_childrenNamed hc hpermission)
    have hnone : (ofGrant g done).permission = none :=
      known_of_not_mem (hpermission ▸ hdone (by simp [hpermission]))
    have hparse : Yields (do ofAclText (Permission.parse (← c.text))) g.permission := by
      refine (htext.yields_text hread).bind ?_
      rw [Permission.parse_eq_ok_iff.2 rfl]
      exact .pure _
    rw [if_pos hpermission]
    refine (GivesIf.ofYields (yields_visit htext.checkBindings ?_)).congr
      (iff_of_true trivial fun _ hno => nomatch hno)
    rw [child_of_permission hpermission, hnone, hpermission, ofGrant_permission]
    exact hparse.once "Permission" |>.bind (.pure _)
  · rw [if_neg hpermission, ofGrant_other hgrantee hpermission, List.forall_mem_singleton]
    exact Element.givesIf_visit_skip hread (child_of_other hgrantee hpermission _)

/-- In the end all of a grant is known. -/
theorem ofGrant_children {g : Grant} {e : Element} (h : g.IsLaidOut e) :
    ofGrant g (e.children.map Element.field)
      = { grantee := some g.grantee, permission := some g.permission } := by
  have hgrantee : known (some g.grantee) "Grantee" _ = some g.grantee :=
    known_children h.grantee fun x => x
  have hpermission : known (some g.permission) "Permission" _ = some g.permission :=
    known_children h.permission fun _ => g.permission
  unfold ofGrant
  rw [hgrantee, hpermission]

end GrantFields

theorem givesIf_readGrant {g : Grant} (hschema : g.grantee.schemaInstance = xsiNamespace)
    {e : Element} (h : g.IsLaidOut e) (he : e.node.IsReadable) :
    GivesIf (∀ c ∈ unknownInGrant e, c.IsPassable) (readGrant e) g := by
  have hone : ∀ name ∈ ["Grantee", "Permission"], (e.childrenNamed name).length ≤ 1 :=
    List.forall_mem_cons.2 ⟨h.grantee.length_le, List.forall_mem_singleton.2 h.permission.length_le⟩
  have hfold := Element.givesIf_fold (t := GrantFields.ofGrant g) he
    (yields_foldAttributes_bare h.tag (fun f _ => pure f) ({} : GrantFields))
    hone fun done c hc hdone => GrantFields.givesIf_visit hschema h he hc hdone
  rw [GrantFields.ofGrant_children h] at hfold
  unfold readGrant unknownInGrant
  rw [List.forall_mem_flatMap]
  refine hfold.followed (.ofYields ?_)
  exact (Yields.required "Grantee" g.grantee).bind <|
    (Yields.required "Permission" g.permission).bind (.pure _)

-- ============================================================== grants

/-- White space ends no grants. -/
theorem GrantRun.text_of_blank (run : GrantRun) {cs : List Char} (h : cs.all isSpace = true) :
    run.text cs = run := by
  unfold GrantRun.text
  cases run with
  | before => rfl
  | after gs => rfl
  | going name gs => exact if_pos h

/-- A grant goes on with the ones before it, or begins them. -/
theorem givesIf_child_grant {g : Grant} (hschema : g.grantee.schemaInstance = xsiNamespace)
    {e : Element} (h : g.IsLaidOut e) (he : e.node.IsReadable) {run : GrantRun}
    (hrun : run = .before ∨ ∃ gs, run = .going "Grant" gs) :
    GivesIf (∀ c ∈ unknownInGrant e, c.IsPassable) (run.child e)
      (.going "Grant" (run.grants ++ [g])) := by
  have hname : e.tag.name = "Grant" := by rw [h.tag]
  have hread := givesIf_readGrant hschema h he
  rcases hrun with rfl | ⟨gs, rfl⟩
  · have hfield : e.field = "Grant" := by
      unfold Element.field
      rw [hname]
      decide
    show GivesIf _ (GrantRun.other .before e) _
    unfold GrantRun.other
    rw [if_pos hfield, ← hname]
    exact hread.followed (.pure _)
  · unfold GrantRun.child
    dsimp only
    rw [if_pos hname]
    exact hread.followed (.pure _)

/-- Grants are read one after the other. -/
theorem givesIf_grants {gs : List Grant} {cs : List Element}
    (hschema : ∀ g ∈ gs, g.grantee.schemaInstance = xsiNamespace)
    (h : List.Forall₂ Grant.IsLaidOut gs cs) (hcs : ∀ c ∈ cs, c.node.IsReadable)
    {onText : GrantRun → List Char → Reading GrantRun} {run : GrantRun}
    (hrun : run = .before ∨ ∃ gs, run = .going "Grant" gs) :
    ∃ run' : GrantRun, run'.grants = run.grants ++ gs
      ∧ GivesIf (∀ c ∈ cs, ∀ d ∈ unknownInGrant c, d.IsPassable)
        (cs.foldlM (fun run c => Node.visit onText GrantRun.child run c.node) run) run' := by
  induction h generalizing run with
  | nil =>
      exact ⟨run, (List.append_nil _).symm, (GivesIf.pure run).congr
        (iff_of_true trivial fun _ hc => nomatch hc)⟩
  | @cons g c gs cs hg _ ih =>
      obtain ⟨hgschema, hgsschema⟩ := List.forall_mem_cons.1 hschema
      obtain ⟨hc, hcs⟩ := List.forall_mem_cons.1 hcs
      have hgoing : GrantRun.going "Grant" (run.grants ++ [g]) = .before
          ∨ ∃ gs, GrantRun.going "Grant" (run.grants ++ [g]) = .going "Grant" gs := .inr ⟨_, rfl⟩
      obtain ⟨run', hgrants, hrest⟩ := ih hgsschema hcs hgoing
      have hbindings : c.tag.checkBindings = .ok () := by
        rw [hg.tag]
        exact checkBindings_bare "Grant"
      refine ⟨run', ?_, ?_⟩
      · rw [hgrants]
        exact List.append_assoc _ [g] gs
      · rw [List.foldlM_cons, List.forall_mem_cons]
        exact (givesIf_visit hbindings (givesIf_child_grant hgschema hg hc hrun)).bind hrest

theorem givesIf_readGrants {gs : List Grant}
    (hschema : ∀ g ∈ gs, g.grantee.schemaInstance = xsiNamespace) {e : Element}
    (h : Grant.AreLaidOut gs e) (he : e.node.IsReadable) :
    GivesIf (∀ c ∈ e.children.flatMap unknownInGrant, c.IsPassable) (readGrants e) gs := by
  have hblank : ∀ pieces cs, .run pieces ∈ e.inside → resolveRun pieces = .ok cs →
      ∀ run : GrantRun, (pure (run.text cs) : Reading GrantRun) = pure run := by
    intro pieces cs hmem hcs run
    obtain ⟨_, cs', ⟨⟩, hcs', hspace⟩ := h.blank pieces hmem
    rw [hcs] at hcs'
    cases hcs'
    rw [run.text_of_blank hspace]
  obtain ⟨run, hgrants, hrun⟩ := givesIf_grants hschema h.each
    (fun c hc => Element.isReadable_of_mem_children he hc) (.inl rfl)
  unfold readGrants
  rw [List.forall_mem_flatMap]
  refine (GivesIf.ofYields (yields_foldAttributes_bare h.tag _ ())).andThen ?_
  refine (Element.givesIf_foldInside he hblank hrun).followed ?_
  rw [hgrants]
  exact .pure gs

-- ============================================================== policy

namespace PolicyFields

/-- What is read of a policy, once children for some fields were read. -/
def ofPolicy (p : Policy) (done : List String) : PolicyFields where
  owner := known (some p.owner) "Owner" done
  grants := known (some p.grants) "AccessControlList" done

theorem ofPolicy_owner (p : Policy) (done : List String) :
    ofPolicy p (done ++ ["Owner"]) = { ofPolicy p done with owner := some p.owner } := by
  unfold ofPolicy
  rw [known_append_self, known_append_of_ne (by decide)]

theorem ofPolicy_grants (p : Policy) (done : List String) :
    ofPolicy p (done ++ ["AccessControlList"])
      = { ofPolicy p done with grants := some p.grants } := by
  unfold ofPolicy
  rw [known_append_self, known_append_of_ne (by decide)]

theorem ofPolicy_other {name : String} (howner : name ≠ "Owner") (hlist : name ≠ "AccessControlList")
    (p : Policy) (done : List String) : ofPolicy p (done ++ [name]) = ofPolicy p done := by
  unfold ofPolicy
  rw [known_append_of_ne (Ne.symm howner), known_append_of_ne (Ne.symm hlist)]

/-- A child of a root is read, or passed over. -/
theorem givesIf_visit {p : Policy} (hschema : ∀ g ∈ p.grants, g.grantee.schemaInstance = xsiNamespace)
    {root c : Element} (h : p.IsLaidOut root) (hroot : root.node.IsReadable) (hc : c ∈ root.children)
    {done : List String} (hdone : c.field ∈ ["Owner", "AccessControlList"] → c.field ∉ done) :
    GivesIf (∀ d ∈ (if c.field = "Owner" then unknownInOwner c
        else if c.field = "AccessControlList" then c.children.flatMap unknownInGrant else [c]),
        d.IsPassable)
      (Node.visit (fun s _ => pure s) child (ofPolicy p done) c.node)
      (ofPolicy p (done ++ [c.field])) := by
  have hread := Element.isReadable_of_mem_children hroot hc
  by_cases howner : c.field = "Owner"
  · obtain ⟨_, ⟨⟩, hlaid⟩ := h.owner.exists_of_mem (mem_childrenNamed hc howner)
    have hnone : (ofPolicy p done).owner = none :=
      known_of_not_mem (howner ▸ hdone (by simp [howner]))
    have hbindings : c.tag.checkBindings = .ok () := by
      rw [hlaid.tag]
      exact checkBindings_bare "Owner"
    rw [if_pos howner]
    refine Document.givesIf_visit hbindings ?_
    rw [child_of_owner howner, hnone, howner, ofPolicy_owner]
    exact (givesIf_readOwner hlaid hread).once "Owner" |>.followed (.pure _)
  rw [if_neg howner]
  by_cases hlist : c.field = "AccessControlList"
  · obtain ⟨_, ⟨⟩, hlaid⟩ := h.grants.exists_of_mem (mem_childrenNamed hc hlist)
    have hnone : (ofPolicy p done).grants = none :=
      known_of_not_mem (hlist ▸ hdone (by simp [hlist]))
    have hbindings : c.tag.checkBindings = .ok () := by
      rw [hlaid.tag]
      exact checkBindings_bare "AccessControlList"
    rw [if_pos hlist]
    refine Document.givesIf_visit hbindings ?_
    rw [child_of_grants hlist, hnone, hlist, ofPolicy_grants]
    exact (givesIf_readGrants hschema hlaid hread).once "AccessControlList" |>.followed (.pure _)
  · rw [if_neg hlist, ofPolicy_other howner hlist, List.forall_mem_singleton]
    exact Element.givesIf_visit_skip hread (child_of_other howner hlist _)

/-- In the end all of a policy is known. -/
theorem ofPolicy_children {p : Policy} {root : Element} (h : p.IsLaidOut root) :
    ofPolicy p (root.children.map Element.field)
      = { owner := some p.owner, grants := some p.grants } := by
  have howner : known (some p.owner) "Owner" _ = some p.owner :=
    known_children h.owner fun x => x
  have hgrants : known (some p.grants) "AccessControlList" _ = some p.grants :=
    known_children h.grants fun x => x
  unfold ofPolicy
  rw [howner, hgrants]

end PolicyFields

theorem givesIf_readPolicy {p : Policy}
    (hschema : ∀ g ∈ p.grants, g.grantee.schemaInstance = xsiNamespace) {root : Element}
    (h : p.IsLaidOut root) (hroot : root.node.IsReadable) :
    GivesIf (∀ c ∈ unknownInPolicy root, c.IsPassable) (readPolicy root) p := by
  have hone : ∀ name ∈ ["Owner", "AccessControlList"], (root.childrenNamed name).length ≤ 1 :=
    List.forall_mem_cons.2 ⟨h.owner.length_le, List.forall_mem_singleton.2 h.grants.length_le⟩
  have hattributes : Yields (root.foldAttributes (fun f _ => pure f) {})
      (PolicyFields.ofPolicy p []) := by
    unfold Element.foldAttributes
    rcases h.rest with ⟨_, has, rfl | ⟨uri, rfl⟩⟩
    · rw [attributes_of_areSpelled has List.nodup_nil]
      exact .pure _
    · rw [attributes_of_areSpelled has (List.pairwise_singleton _ _)]
      exact .pure _
  have hfold := Element.givesIf_fold (t := PolicyFields.ofPolicy p) hroot hattributes
    hone fun done c hc hdone => PolicyFields.givesIf_visit hschema h hroot hc hdone
  rw [PolicyFields.ofPolicy_children h] at hfold
  unfold readPolicy unknownInPolicy
  rw [List.forall_mem_flatMap]
  exact hfold.followed (.pure _)

-- =========================================================== documents

/-- A root that a policy is laid out in binds at most the names that have
no prefix. -/
theorem checkBindings_of_isLaidOut {p : Policy} {root : Element} (h : p.IsLaidOut root) :
    root.tag.checkBindings = .ok () := by
  obtain ⟨as, has, hlength⟩ := h.rest
  refine checkBindings_of_areSpelled has ?_
  rcases hlength with rfl | ⟨uri, rfl⟩
  · exact fun _ ha => nomatch ha
  · refine List.forall_mem_singleton.2 fun b hb => ?_
    have hbound : boundPrefix? "xmlns" = some none := by decide
    unfold Attribute.binding? at hb
    rw [hbound] at hb
    cases hb
    rfl

/-- The root of a document is found behind what stands in front of it. -/
theorem run_rootOf {before after : List Node} (hbefore : ∀ n ∈ before, n.IsBlank) {root : Element}
    (hroot : root.tag.checkBindings = .ok ()) (expected : String) (end? : Option Fault) :
    (rootOf expected end? (before ++ root.node :: after)).run [] = .ok (root, [root.tag]) := by
  induction before with
  | nil =>
      rw [List.nil_append]
      unfold Element.node rootOf
      rw [hroot]
      rfl
  | cons n r ih =>
      obtain ⟨⟨pieces, cs, rfl, hcs, hspace⟩, hr⟩ := List.forall_mem_cons.1 hbefore
      rw [List.cons_append, rootOf, hcs]
      show (if cs.all isSpace then _ else _ : Reading Element).run [] = _
      rw [if_pos hspace]
      exact ih hr

theorem rootOf?_of_isDocument {text : String} {root : Element} (h : IsDocument text root)
    (hroot : root.tag.checkBindings = .ok ()) : rootOf? text = some root := by
  obtain ⟨before, after, hspells, hbefore⟩ := h.spells
  unfold rootOf? Xml.root
  rw [hspells.parse h.mark]
  dsimp only
  rw [run_rootOf hbefore hroot]
  rfl

/-- A text that lays out a policy is read as this policy, if all that is
passed over can be; otherwise it is refused. -/
theorem ofXml_of_isDocument {p : Policy}
    (hschema : ∀ g ∈ p.grants, g.grantee.schemaInstance = xsiNamespace) {text : String}
    {root : Element} (htext : IsDocument text root) (h : p.IsLaidOut root) :
    ((∀ c ∈ unknownInPolicy root, c.IsPassable) → Policy.ofXml text = .ok p)
      ∧ (¬ (∀ c ∈ unknownInPolicy root, c.IsPassable) →
        ∃ f, Policy.ofXml text = .error (.markup (.binding f))) := by
  have hread : root.node.IsReadable := by
    obtain ⟨before, after, hspells, -⟩ := htext.spells
    exact hspells.isReadable _ (List.mem_append_right _ (List.mem_cons_self ..))
  have hroot := rootOf?_of_isDocument htext (checkBindings_of_isLaidOut h)
  obtain ⟨hok, herror⟩ := givesIf_readPolicy hschema h hread [root.tag]
  rw [ofXml_of_root hroot]
  refine ⟨fun hall => ?_, fun hno => ?_⟩
  · obtain ⟨t, ht⟩ := hok hall
    rw [ht]
    rfl
  · obtain ⟨f, hf⟩ := herror hno
    exact ⟨f, by rw [hf]; rfl⟩

end Document

end BucketAcl
