/-
What a policy was read from. Each part of it was read from one element,
and each element that could have given that part has given it, so that
grants are neither lost nor invented nor put in another order. An
invariant of the elements that were read says so for each kind of
element, and a rule for the reading of one more keeps it.

Main statement: `ensures_readPolicy`.
-/
import BucketAcl.Proofs.Acl.Reading
import BucketAcl.Proofs.Xml.Ensures
import Mathlib.Data.List.Forall2

namespace BucketAcl

open Xml

-- ============================================================= sources

/-- A value that one source may give: what this one says, or where there
is none, another value. More sources than one give nothing. -/
def TakenFrom {α β : Type} (P : α → β → Prop) (other : α) (sources : List β) (value : α) :
    Prop :=
  match sources with
  | [] => value = other
  | [x] => P value x
  | _ => False

/-- What gives a field that may be written as an attribute or as an
element. -/
abbrev Source : Type := Attribute ⊕ Element

namespace Source

/-- The field that a source gives. -/
def field : Source → String
  | .inl a => a.field
  | .inr e => e.field

/-- The text that a source holds, with its references resolved. -/
def Says (text : String) : Source → Prop
  | .inl a => unescape a.value = .ok text.toList
  | .inr e => e.HoldsText text

/-- Attributes and elements as sources, in the order of the reading. -/
def ofParts (as : List Attribute) (es : List Element) : List Source :=
  as.map .inl ++ es.map .inr

end Source

/-- The attributes of an element and the elements right inside it that
give one of some fields. -/
def Xml.Element.giving (e : Element) (names : List String) : List Source :=
  (Source.ofParts e.attributes e.children).filter fun x => x.field ∈ names

-- =========================================================== documents

/-- An owner that was read from an element, where a document has some
tags. -/
structure Owner.IsReadFrom (tags : List Tag) (o : Owner) (e : Element) : Prop where
  id : TakenFrom (fun text c => c.HoldsText text) "" (e.childrenNamed "ID") o.id
  displayName : TakenFrom (fun text c => c.MayHold tags e.tag text) none
    (e.childrenNamed "DisplayName") o.displayName

/-- The text of a grantee in a field. -/
def Document.TextField.textOf (g : Grantee) : Document.TextField → Option String
  | id => g.id
  | displayName => g.displayName
  | uri => g.uri
  | emailAddress => g.emailAddress

/-- A grantee that was read from an element. -/
structure Grantee.IsReadFrom (tags : List Tag) (g : Grantee) (e : Element) : Prop where
  schemaInstance : TakenFrom (fun text x => x.Says text) xsiNamespace (e.giving ["@xmlns:xsi"])
    g.schemaInstance
  type : TakenFrom (fun (t : GranteeType) x => x.Says t.name) .canonicalUser
    (e.giving ["@type", "@xsi:type"]) g.type
  text : ∀ field : Document.TextField, TakenFrom (fun text c => c.MayHold tags e.tag text) none
    (e.childrenNamed field.name) (field.textOf g)

/-- A grant that was read from an element: there is exactly one for the
grantee, and exactly one that names the permission. -/
structure Grant.IsReadFrom (tags : List Tag) (g : Grant) (e : Element) : Prop where
  grantee : ∃ c, e.childrenNamed "Grantee" = [c] ∧ g.grantee.IsReadFrom tags c
  permission : ∃ c, e.childrenNamed "Permission" = [c] ∧ c.HoldsText g.permission.name

/-- Grants that were read from a list: one from each of its elements for
a grant, in their order, and these stand together. -/
structure Grant.AreReadFrom (tags : List Tag) (gs : List Grant) (e : Element) : Prop where
  each : List.Forall₂ (Grant.IsReadFrom tags) gs (e.childrenNamed "Grant")
  together : e.childrenNamed "Grant" <:+: e.children

/-- A policy that was read from a root. -/
structure Policy.IsReadFrom (p : Policy) (root : Element) : Prop where
  owner : TakenFrom (Owner.IsReadFrom root.tags) {} (root.childrenNamed "Owner") p.owner
  grants : TakenFrom (Grant.AreReadFrom root.tags) [] (root.childrenNamed "AccessControlList")
    p.grants

namespace Document

-- ============================================================== filling

variable {α β : Type} {P : α → β → Prop} {T : Tag → Prop}

/-- What a field holds was read from the source of it that was visited;
where it holds nothing, there was none. -/
def Filled (P : α → β → Prop) (value : Option α) (sources : List β) : Prop :=
  List.Forall₂ P value.toList sources

theorem Filled.takenFrom {value : Option α} {sources : List β} (h : Filled P value sources)
    (other : α) : TakenFrom P other sources (value.getD other) := by
  cases value with
  | none =>
      cases h
      exact rfl
  | some a =>
      obtain _ | ⟨hx, hnil⟩ := h
      cases hnil
      exact hx

/-- A source that does not give the field is passed. -/
theorem Filled.pass {value : Option α} {q : β → Bool} {done : List β}
    (h : Filled P value (done.filter q)) {x : β} (hx : q x = false) :
    Filled P value ((done ++ [x]).filter q) := by
  rw [List.filter_append, List.filter_cons_of_neg (Bool.eq_false_iff.1 hx), List.filter_nil,
    List.append_nil]
  exact h

theorem exists_of_forall₂_of_mem {xs : List α} {ys : List β} (h : List.Forall₂ P xs ys) {y : β}
    (hy : y ∈ ys) : ∃ x ∈ xs, P x y := by
  induction h with
  | nil => cases hy
  | cons hxy _ ih =>
      rcases List.mem_cons.1 hy with rfl | hy
      · exact ⟨_, List.mem_cons_self .., hxy⟩
      · obtain ⟨x, hx, hP⟩ := ih hy
        exact ⟨x, List.mem_cons_of_mem _ hx, hP⟩

/-- The first source that gives the field fills it. -/
theorem Filled.fill {value : Option α} {q : β → Bool} {done : List β}
    (h : Filled P value (done.filter q)) (hnone : value = none) {x : β} (hx : q x = true) {a : α}
    (ha : P a x) : Filled P (some a) ((done ++ [x]).filter q) := by
  subst hnone
  have hnil : done.filter q = [] := List.forall₂_nil_left_iff.1 h
  rw [List.filter_append, hnil, List.filter_cons_of_pos hx, List.filter_nil]
  exact .cons ha .nil

/-- A field that is filled once is filled from its source. -/
theorem ensures_once {former : Option α} {q : β → Bool} {done : List β}
    (h : Filled P former (done.filter q)) {x : β} (hx : q x = true) (name : String)
    {r : Reading α} (hr : Ensures T r fun a => P a x) :
    Ensures T (once name former r) fun v => Filled P v ((done ++ [x]).filter q) := by
  refine (Ensures.once name hr).mono ?_
  rintro _ ⟨hnone, a, ha, rfl⟩
  exact h.fill hnone hx ha

-- ============================================================== owner

variable {tags : List Tag}

/-- What is known of an owner, once some of the elements inside were
read. -/
structure OwnerFields.Holds (tags : List Tag) (parent : Tag) (done : List Element)
    (f : OwnerFields) : Prop where
  id : Filled (fun text c => c.HoldsText text) f.id (done.filter (·.field = "ID"))
  displayName : Filled (fun text c => c.MayHold tags parent text) f.displayName
    (done.filter (·.field = "DisplayName"))

theorem OwnerFields.ensures_child {parent : Tag} {done : List Element} {f : OwnerFields}
    (hf : f.Holds tags parent done) {e : Element} (hT : ∀ t ∈ e.tags, t ∈ tags) :
    Ensures (· ∈ tags) (OwnerFields.child parent f e) (OwnerFields.Holds tags parent (done ++ [e])) := by
  unfold child
  split
  · rename_i he
    refine .bind (ensures_once hf.id (decide_eq_true he) "ID" (Element.ensures_text hT))
      fun v hv => .pure ⟨hv, hf.displayName.pass ?_⟩
    rw [he]
    rfl
  · rename_i he
    refine .bind (ensures_once hf.displayName (decide_eq_true he) "DisplayName"
      (Element.ensures_optionalText parent hT)) fun v hv => .pure ⟨hf.id.pass ?_, hv⟩
    rw [he]
    rfl
  · rename_i hid hdisplay
    exact .bind (Element.ensures_skip hT) fun _ _ => .pure
      ⟨hf.id.pass (decide_eq_false hid), hf.displayName.pass (decide_eq_false hdisplay)⟩

theorem ensures_readOwner {e : Element} (hT : ∀ t ∈ e.tags, t ∈ tags) :
    Ensures (· ∈ tags) (readOwner e) (Owner.IsReadFrom tags · e) := by
  unfold readOwner Element.fold
  refine .bind (.bind (e.ensures_passAttributes _) fun _ hnew =>
    Element.ensures_foldChildren (I := OwnerFields.Holds tags e.tag) hT (hnew ▸ ⟨.nil, .nil⟩)
      (fun _ _ _ h => .pure h) fun _ _ _ hc hf => OwnerFields.ensures_child hf hc) fun f hf => ?_
  exact .pure ⟨hf.id.takenFrom "", hf.displayName.takenFrom none⟩

-- ============================================================ grantee

theorem TextField.name_inj {field other : TextField} (h : field.name = other.name) :
    field = other := by
  revert h
  cases field <;> cases other <;> simp [TextField.name]

theorem TextField.get_set_self (field : TextField) (f : GranteeFields)
    (value : Option (Option String)) : field.get (field.set f value) = value := by
  cases field <;> rfl

theorem TextField.get_set_of_ne {field other : TextField} (h : other ≠ field) (f : GranteeFields)
    (value : Option (Option String)) : other.get (field.set f value) = other.get f := by
  revert h
  cases field <;> cases other <;> simp [TextField.get, TextField.set]

theorem parse_granteeType_eq_ok {text : String} {t : GranteeType}
    (h : GranteeType.parse text = .ok t) : text = t.name := by
  unfold GranteeType.parse GranteeType.ofName? at h
  split at h
  · rename_i t' ht
    cases h
    have hname := List.find?_some ht
    exact (beq_iff_eq.1 hname).symm
  · cases h

theorem ensures_ofAclText {α : Type} (e : Except MalformedAcl α) :
    Ensures T (ofAclText e) (e = .ok ·) := by
  cases e with
  | ok a => exact .pure rfl
  | error f => exact .fault _

theorem ensures_attributeText (a : Attribute) :
    Ensures T a.text fun text => Source.Says text (.inl a) := by
  unfold Attribute.text
  refine .bind (.ofMarkup _) fun cs hcs => .pure ?_
  show unescape a.value = .ok (String.ofList cs).toList
  rw [String.toList_ofList]
  exact hcs

/-- What is known of the fields of a grantee that may be attributes. -/
structure GranteeFields.Attributed (done : List Source) (f : GranteeFields) : Prop where
  schemaInstance : Filled (fun text x => x.Says text) f.schemaInstance
    (done.filter fun x => x.field ∈ ["@xmlns:xsi"])
  type : Filled (fun (t : GranteeType) x => x.Says t.name) f.type
    (done.filter fun x => x.field ∈ ["@type", "@xsi:type"])

namespace GranteeFields

/-- A source fills the field that it gives, and leaves the texts. -/
theorem ensures_put {done : List Source} {f : GranteeFields} (hf : f.Attributed done) {x : Source}
    {text : Reading String} (htext : Ensures T text fun s => x.Says s)
    {r : Reading GranteeFields} (hr : f.put x.field text = some r) :
    Ensures T r fun f' => f'.Attributed (done ++ [x])
      ∧ ∀ field : TextField, field.get f' = field.get f := by
  have htype {name : String} (hname : name = "@type" ∨ name = "@xsi:type")
      (hx : x.field = name) : Ensures T (do
        let type : Reading GranteeType := do ofAclText (GranteeType.parse (← text))
        return { f with type := ← once "@type" f.type type })
        fun f' => f'.Attributed (done ++ [x]) ∧ ∀ field : TextField, field.get f' = field.get f := by
    have hother : x.field ∉ ["@xmlns:xsi"] := by
      rw [hx]
      rcases hname with rfl | rfl <;> decide
    have hmem : x.field ∈ ["@type", "@xsi:type"] := by
      rw [hx]
      rcases hname with rfl | rfl <;> decide
    refine .bind (ensures_once hf.type (decide_eq_true hmem) "@type"
      (.bind htext fun s hs => (ensures_ofAclText _).mono fun t ht => ?_)) fun v hv =>
        .pure ⟨⟨hf.schemaInstance.pass (decide_eq_false hother), hv⟩, fun field => ?_⟩
    · rw [← parse_granteeType_eq_ok ht]
      exact hs
    · cases field <;> rfl
  unfold put at hr
  split at hr
  · rename_i hx
    cases hr
    have hother : x.field ∉ ["@type", "@xsi:type"] := by
      rw [hx]
      decide
    refine .bind (ensures_once hf.schemaInstance (decide_eq_true (List.mem_singleton.2 hx))
      "@xmlns:xsi" htext) fun v hv =>
        .pure ⟨⟨hv, hf.type.pass (decide_eq_false hother)⟩, fun field => ?_⟩
    cases field <;> rfl
  · rename_i hx
    cases hr
    exact htype (.inl rfl) hx
  · rename_i hx
    cases hr
    exact htype (.inr rfl) hx
  · cases hr

/-- A source that gives neither field leaves both. -/
theorem Attributed.pass {done : List Source} {f : GranteeFields} (hf : f.Attributed done)
    {x : Source} {text : Reading String} (hx : f.put x.field text = none) :
    f.Attributed (done ++ [x]) := by
  unfold put at hx
  split at hx
  · cases hx
  · cases hx
  · cases hx
  · rename_i hxsi htype hxsiType
    refine ⟨hf.schemaInstance.pass (decide_eq_false ?_), hf.type.pass (decide_eq_false ?_)⟩
    · simpa using hxsi
    · simpa using ⟨htype, hxsiType⟩

/-- What is known of a grantee, once the attributes and some of the
elements inside were read. -/
structure Holds (tags : List Tag) (parent : Tag) (as : List Attribute) (done : List Element)
    (f : GranteeFields) : Prop where
  attributed : f.Attributed (Source.ofParts as done)
  text : ∀ field : TextField, Filled (fun text c => c.MayHold tags parent text) (field.get f)
    (done.filter (·.field = field.name))

theorem ensures_ofAttribute {parent : Tag} {as : List Attribute} {f : GranteeFields}
    (hf : f.Holds tags parent as []) (a : Attribute) :
    Ensures T (f.ofAttribute a) (GranteeFields.Holds tags parent (as ++ [a]) []) := by
  have hsources : Source.ofParts (as ++ [a]) [] = Source.ofParts as [] ++ [.inl a] := by
    simp [Source.ofParts]
  unfold ofAttribute
  cases hput : f.put a.field a.text with
  | none => exact .pure ⟨hsources ▸ hf.attributed.pass (x := .inl a) hput, hf.text⟩
  | some r =>
      refine (ensures_put hf.attributed (x := .inl a) (ensures_attributeText a) hput).mono ?_
      rintro f' ⟨hattributed, hsame⟩
      exact ⟨hsources ▸ hattributed, fun field => hsame field ▸ hf.text field⟩

/-- A child that is not named like a text fills a field that may be an
attribute, or is passed over. -/
theorem child_of_other {e : Element} (he : ∀ field : TextField, e.field ≠ field.name)
    (parent : Tag) (f : GranteeFields) :
    child parent f e = match f.put e.field e.text with
      | some r => r
      | none => do
        e.skip
        return f := by
  unfold child
  split
  · rename_i h
    exact absurd h (he .id)
  · rename_i h
    exact absurd h (he .displayName)
  · rename_i h
    exact absurd h (he .uri)
  · rename_i h
    exact absurd h (he .emailAddress)
  · rfl

theorem ensures_child {parent : Tag} {as : List Attribute} {done : List Element}
    {f : GranteeFields} (hf : f.Holds tags parent as done) {e : Element}
    (hT : ∀ t ∈ e.tags, t ∈ tags) :
    Ensures (· ∈ tags) (child parent f e) (GranteeFields.Holds tags parent as (done ++ [e])) := by
  have hsources : Source.ofParts as (done ++ [e]) = Source.ofParts as done ++ [.inr e] := by
    simp [Source.ofParts]
  by_cases hname : ∃ field : TextField, e.field = field.name
  · obtain ⟨field, he⟩ := hname
    rw [TextField.child_eq he]
    refine .bind (ensures_once (hf.text field) (decide_eq_true he) field.name
      (Element.ensures_optionalText parent hT)) fun v hv => .pure ⟨?_, fun other => ?_⟩
    · have hput : f.put e.field e.text = none := by
        rw [he]
        cases field <;> rfl
      have hpass := hf.attributed.pass (x := .inr e) hput
      rw [hsources]
      cases field <;> exact ⟨hpass.schemaInstance, hpass.type⟩
    · by_cases hsame : other = field
      · subst hsame
        rw [TextField.get_set_self]
        exact hv
      · have hne : e.field ≠ other.name := fun h =>
          hsame (TextField.name_inj (h.symm.trans he))
        rw [TextField.get_set_of_ne hsame]
        exact (hf.text other).pass (decide_eq_false hne)
  · have hother : ∀ field : TextField, e.field ≠ field.name := fun field h => hname ⟨field, h⟩
    rw [child_of_other hother]
    have htext (f' : GranteeFields) (hsame : ∀ field : TextField, field.get f' = field.get f)
        (field : TextField) : Filled (fun text c => c.MayHold tags parent text) (field.get f')
          ((done ++ [e]).filter (·.field = field.name)) := by
      rw [hsame field]
      exact (hf.text field).pass (decide_eq_false (hother field))
    cases hput : f.put e.field e.text with
    | none =>
        refine .bind (Element.ensures_skip hT) fun _ _ => .pure ⟨?_, htext f fun _ => rfl⟩
        exact hsources ▸ hf.attributed.pass (x := .inr e) hput
    | some r =>
        refine (ensures_put hf.attributed (x := .inr e) (Element.ensures_text hT) hput).mono ?_
        rintro f' ⟨hattributed, hsame⟩
        exact ⟨hsources ▸ hattributed, htext f' hsame⟩

end GranteeFields

theorem ensures_readGrantee {e : Element} (hT : ∀ t ∈ e.tags, t ∈ tags) :
    Ensures (· ∈ tags) (readGrantee e) (Grantee.IsReadFrom tags · e) := by
  unfold readGrantee Element.fold
  refine .bind (.bind (Element.ensures_foldAttributes
    (I := fun as f => GranteeFields.Holds tags e.tag as [] f) ⟨⟨.nil, .nil⟩, fun field => ?_⟩
    fun _ a _ hf => GranteeFields.ensures_ofAttribute hf a) fun _ hf =>
      Element.ensures_foldChildren (I := GranteeFields.Holds tags e.tag e.attributes) hT hf
        (fun _ _ _ h => .pure h) fun _ _ _ hc hf => GranteeFields.ensures_child hf hc) fun f hf => ?_
  · cases field <;> exact .nil
  · refine .pure ⟨hf.attributed.schemaInstance.takenFrom _, hf.attributed.type.takenFrom _,
      fun field => ?_⟩
    have htext := (hf.text field).takenFrom none
    cases field <;> exact htext

-- ============================================================== grants

/-- What is known of a grant, once some of the elements inside were
read. -/
structure GrantFields.Holds (tags : List Tag) (done : List Element) (f : GrantFields) : Prop where
  grantee : Filled (Grantee.IsReadFrom tags) f.grantee (done.filter (·.field = "Grantee"))
  permission : Filled (fun (q : Permission) c => c.HoldsText q.name) f.permission
    (done.filter (·.field = "Permission"))

theorem GrantFields.ensures_child {done : List Element} {f : GrantFields} (hf : f.Holds tags done)
    {e : Element} (hT : ∀ t ∈ e.tags, t ∈ tags) :
    Ensures (· ∈ tags) (f.child e) (GrantFields.Holds tags (done ++ [e])) := by
  unfold child
  split
  · rename_i he
    refine .bind (ensures_once hf.grantee (decide_eq_true he) "Grantee" (ensures_readGrantee hT))
      fun v hv => .pure ⟨hv, hf.permission.pass ?_⟩
    rw [he]
    rfl
  · rename_i he
    refine .bind (ensures_once hf.permission (decide_eq_true he) "Permission"
      (.bind (Element.ensures_text hT) fun text htext => (ensures_ofAclText _).mono fun q hq => ?_))
      fun v hv => .pure ⟨hf.grantee.pass ?_, hv⟩
    · rw [← Permission.parse_eq_ok_iff.1 hq]
      exact htext
    · rw [he]
      rfl
  · rename_i hgrantee hpermission
    exact .bind (Element.ensures_skip hT) fun _ _ => .pure
      ⟨hf.grantee.pass (decide_eq_false hgrantee), hf.permission.pass (decide_eq_false hpermission)⟩

/-- A field that has to be filled has its one source. -/
theorem Filled.exists_of_some {value : Option α} {sources : List β} (h : Filled P value sources)
    {a : α} (ha : value = some a) : ∃ x, sources = [x] ∧ P a x := by
  subst ha
  obtain _ | ⟨hx, hnil⟩ := h
  cases hnil
  exact ⟨_, rfl, hx⟩

theorem ensures_readGrant {e : Element} (hT : ∀ t ∈ e.tags, t ∈ tags) :
    Ensures (· ∈ tags) (readGrant e) (Grant.IsReadFrom tags · e) := by
  unfold readGrant Element.fold
  refine .bind (.bind (e.ensures_passAttributes _) fun _ hnew =>
    Element.ensures_foldChildren (I := GrantFields.Holds tags) hT (hnew ▸ ⟨.nil, .nil⟩)
      (fun _ _ _ h => .pure h) fun _ _ _ hc hf => GrantFields.ensures_child hf hc) fun f hf => ?_
  refine .bind (.required _ _) fun grantee hgrantee => ?_
  refine .bind (.required _ _) fun permission hpermission => .pure ?_
  exact ⟨hf.grantee.exists_of_some hgrantee, hf.permission.exists_of_some hpermission⟩

namespace GrantRun

/-- What is known of the grants of a list, once some of the elements
inside were read: those for grants stand together, and while there may
be more they stand last. -/
def Holds (tags : List Tag) (done : List Element) (run : GrantRun) : Prop :=
  ∃ before grants after, done = before ++ grants ++ after
    ∧ (∀ c ∈ before ++ after, c.field ≠ "Grant") ∧ (∀ c ∈ grants, c.field = "Grant")
    ∧ List.Forall₂ (Grant.IsReadFrom tags) run.grants grants
    ∧ match run with
      | .before => grants = []
      | .going name _ => after = [] ∧ localName name = "Grant"
      | .after _ => True

/-- Text ends the grants at most. -/
theorem Holds.text {done : List Element} {run : GrantRun} (h : run.Holds tags done)
    (cs : List Char) : (run.text cs).Holds tags done := by
  unfold GrantRun.text
  cases run with
  | before => exact h
  | after gs => exact h
  | going name gs =>
      dsimp only
      split
      · exact h
      · obtain ⟨before, grants, after, hdone, hother, hgrants, heach, -⟩ := h
        exact ⟨before, grants, after, hdone, hother, hgrants, heach, trivial⟩

/-- An element that is for no grant ends the grants. -/
theorem Holds.pass {done : List Element} {gs : List Grant}
    (h : (GrantRun.after gs).Holds tags done) {e : Element} (he : e.field ≠ "Grant") :
    (GrantRun.after gs).Holds tags (done ++ [e]) := by
  obtain ⟨before, grants, after, rfl, hother, hgrants, heach, -⟩ := h
  refine ⟨before, grants, after ++ [e], by simp, ?_, hgrants, heach, trivial⟩
  rw [← List.append_assoc]
  exact List.forall_mem_append.2 ⟨hother, by simpa using he⟩

theorem ensures_child {done : List Element} {run : GrantRun} (h : run.Holds tags done) {e : Element}
    (hT : ∀ t ∈ e.tags, t ∈ tags) :
    Ensures (· ∈ tags) (run.child e) (Holds tags (done ++ [e])) := by
  have hafter {gs : List Grant} (h : (GrantRun.after gs).Holds tags done) :
      Ensures (· ∈ tags) ((GrantRun.after gs).other e) (Holds tags (done ++ [e])) := by
    unfold other
    split
    · exact .fault _
    · rename_i he
      exact .bind (Element.ensures_skip hT) fun _ _ => .pure (h.pass he)
  cases run with
  | before =>
      obtain ⟨before, grants, after, rfl, hother, -, heach, rfl⟩ := h
      show Ensures _ (GrantRun.before.other e) _
      unfold other
      split
      · rename_i he
        refine .bind (ensures_readGrant hT) fun g hg => .pure ?_
        refine ⟨before ++ after, [e], [], by simp, by simpa using hother, by simpa using he,
          .cons hg .nil, rfl, he⟩
      · rename_i he
        refine .bind (Element.ensures_skip hT) fun _ _ => .pure ?_
        refine ⟨before ++ after ++ [e], [], [], by simp, ?_, by simp, heach, rfl⟩
        rw [List.append_nil]
        exact List.forall_mem_append.2 ⟨hother, by simpa using he⟩
  | going name gs =>
      obtain ⟨before, grants, after, rfl, hother, hgrants, heach, rfl, hname⟩ := h
      unfold child
      dsimp only
      split
      · rename_i he
        have hfield : e.field = "Grant" := by
          unfold Element.field
          rw [he]
          exact hname
        refine .bind (ensures_readGrant hT) fun g hg => .pure ?_
        refine ⟨before, grants ++ [e], [], by simp, hother, ?_, ?_, rfl, hname⟩
        · exact List.forall_mem_append.2 ⟨hgrants, by simpa using hfield⟩
        · exact List.rel_append heach (.cons hg .nil)
      · exact hafter ⟨before, grants, [], rfl, hother, hgrants, heach, trivial⟩
  | after gs => exact hafter h

/-- All of a list was read. -/
theorem Holds.areReadFrom {e : Element} {run : GrantRun} (h : run.Holds tags e.children) :
    Grant.AreReadFrom tags run.grants e := by
  obtain ⟨before, grants, after, hdone, hother, hgrants, heach, -⟩ := h
  have hbefore : before.filter (·.field = "Grant") = [] :=
    List.filter_eq_nil_iff.2 fun c hc => by
      simpa using hother c (List.mem_append_left _ hc)
  have hafter : after.filter (·.field = "Grant") = [] :=
    List.filter_eq_nil_iff.2 fun c hc => by
      simpa using hother c (List.mem_append_right _ hc)
  have hall : grants.filter (·.field = "Grant") = grants :=
    List.filter_eq_self.2 fun c hc => decide_eq_true (hgrants c hc)
  have hnamed : e.childrenNamed "Grant" = grants := by
    unfold Element.childrenNamed
    rw [hdone, List.filter_append, List.filter_append, hbefore, hafter, hall, List.nil_append,
      List.append_nil]
  refine ⟨hnamed ▸ heach, ?_⟩
  rw [hnamed, hdone]
  exact ⟨before, after, rfl⟩

end GrantRun

theorem ensures_readGrants {e : Element} (hT : ∀ t ∈ e.tags, t ∈ tags) :
    Ensures (· ∈ tags) (readGrants e) (Grant.AreReadFrom tags · e) := by
  unfold readGrants
  refine .bind (e.ensures_passAttributes ()) fun _ _ => ?_
  refine .bind (Element.ensures_foldChildren (I := GrantRun.Holds tags) hT ?_
    (fun _ _ cs h => .pure (h.text cs)) fun _ _ _ hc h => GrantRun.ensures_child h hc)
      fun run hrun => .pure hrun.areReadFrom
  exact ⟨[], [], [], rfl, by simp, by simp, .nil, rfl⟩

-- ============================================================= policy

/-- What is known of a policy, once some of the elements inside were
read. -/
structure PolicyFields.Holds (tags : List Tag) (done : List Element) (f : PolicyFields) :
    Prop where
  owner : Filled (Owner.IsReadFrom tags) f.owner (done.filter (·.field = "Owner"))
  grants : Filled (Grant.AreReadFrom tags) f.grants (done.filter (·.field = "AccessControlList"))

theorem PolicyFields.ensures_child {done : List Element} {f : PolicyFields}
    (hf : f.Holds tags done) {e : Element} (hT : ∀ t ∈ e.tags, t ∈ tags) :
    Ensures (· ∈ tags) (f.child e) (PolicyFields.Holds tags (done ++ [e])) := by
  unfold child
  split
  · rename_i he
    refine .bind (ensures_once hf.owner (decide_eq_true he) "Owner" (ensures_readOwner hT))
      fun v hv => .pure ⟨hv, hf.grants.pass ?_⟩
    rw [he]
    rfl
  · rename_i he
    refine .bind (ensures_once hf.grants (decide_eq_true he) "AccessControlList"
      (ensures_readGrants hT)) fun v hv => .pure ⟨hf.owner.pass ?_, hv⟩
    rw [he]
    rfl
  · rename_i howner hgrants
    exact .bind (Element.ensures_skip hT) fun _ _ => .pure
      ⟨hf.owner.pass (decide_eq_false howner), hf.grants.pass (decide_eq_false hgrants)⟩

theorem ensures_readPolicy {e : Element} (hT : ∀ t ∈ e.tags, t ∈ tags) :
    Ensures (· ∈ tags) (readPolicy e) fun p => TakenFrom (Owner.IsReadFrom tags) {}
      (e.childrenNamed "Owner") p.owner ∧ TakenFrom (Grant.AreReadFrom tags) []
        (e.childrenNamed "AccessControlList") p.grants := by
  unfold readPolicy Element.fold
  refine .bind (.bind (e.ensures_passAttributes _) fun _ hnew =>
    Element.ensures_foldChildren (I := PolicyFields.Holds tags) hT (hnew ▸ ⟨.nil, .nil⟩)
      (fun _ _ _ h => .pure h) fun _ _ _ hc hf => PolicyFields.ensures_child hf hc) fun f hf => ?_
  exact .pure ⟨hf.owner.takenFrom {}, hf.grants.takenFrom []⟩

theorem ensures_readPolicy_closed (e : Element) :
    Ensures (fun _ => True) (readPolicy e) fun _ => e.ending = .closed := by
  unfold readPolicy Element.fold
  exact .bind (.bind (.any _) fun _ _ => e.ensures_closed _ _ _) fun _ h => .pure h

-- =============================================================== root

/-- The root of a text, if the text has one that can be read. -/
def rootOf? (text : String) : Option Element :=
  ((Xml.root "AccessControlPolicy" text).run []).toOption.map Prod.fst

/-- The root is read outside all elements, and its tag is left in scope. -/
theorem run_root_eq {text : String} {root : Element} (h : rootOf? text = some root) :
    (Xml.root "AccessControlPolicy" text).run [] = .ok (root, [root.tag]) := by
  unfold rootOf? at h
  cases hx : (Xml.root "AccessControlPolicy" text).run [] with
  | error f =>
      rw [hx] at h
      cases h
  | ok x =>
      obtain ⟨e, scope⟩ := x
      rw [hx] at h
      cases h
      obtain ⟨rfl, -⟩ := rootOf_eq_ok hx
      rfl

/-- The policy of a text is what is read of its root. -/
theorem ofXml_of_root {text : String} {root : Element} (h : rootOf? text = some root) :
    Policy.ofXml text = Prod.fst <$> (readPolicy root).run [root.tag] := by
  unfold Policy.ofXml Reading.result StateT.run'
  show Prod.fst <$> (Xml.root "AccessControlPolicy" text >>= readPolicy).run [] = _
  rw [StateT.run_bind, run_root_eq h]
  rfl

end Document

end BucketAcl
