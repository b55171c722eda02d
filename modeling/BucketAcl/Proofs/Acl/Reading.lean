/-
Reading the parts of a policy. A text that was written is read with its
line ends normalized; and for each part there is one equation for each
field that a child of its element may fill.

Main statements: `yields_textElement`, `yields_granteeAttributes`.
-/
import BucketAcl.Acl.Document
import BucketAcl.Proofs.Xml.Attributes
import BucketAcl.Proofs.Xml.Reading

namespace BucketAcl

open Xml

-- ======================================================= as read again

/-- A text as it is read again: its line ends are normalized. -/
def normalizedText (s : String) : String := .ofList (Token.normalizeLineEnds s.toList)

/-- An owner as it is read again. -/
def Owner.normalized (o : Owner) : Owner where
  id := normalizedText o.id
  displayName := o.displayName.map normalizedText

/-- A grantee as it is read again. -/
def Grantee.normalized (g : Grantee) : Grantee where
  schemaInstance := g.schemaInstance
  type := g.type
  id := g.id.map normalizedText
  displayName := g.displayName.map normalizedText
  uri := g.uri.map normalizedText
  emailAddress := g.emailAddress.map normalizedText

/-- A grant as it is read again. -/
def Grant.normalized (g : Grant) : Grant := ⟨g.grantee.normalized, g.permission⟩

/-- A policy as it is read again. -/
def Policy.normalized (p : Policy) : Policy := ⟨p.owner.normalized, p.grants.map Grant.normalized⟩

namespace Document

-- ======================================================== bare elements

variable {σ : Type}

theorem checkBindings_bare (name : String) : (⟨name, []⟩ : Tag).checkBindings = .ok () := by
  show (writtenTag name []).checkBindings = .ok ()
  exact checkBindings_writtenTag (fun _ h => nomatch h) (fun _ h => nomatch h)

theorem isNil_bare (name : String) (scope : Scope) (uri : String) :
    (⟨name, []⟩ : Tag).isNil scope uri = false := by
  have hname : ∀ a ∈ ([] : List (String × String)), IsName a.1 := fun _ h => nomatch h
  exact isNil_writtenTag hname List.nodup_nil (fun _ h => nomatch h) scope uri

/-- A tag without attributes has none to visit. -/
theorem yields_foldAttributes_bare {e : Element} {name : String} (h : e.tag = ⟨name, []⟩)
    (f : σ → Attribute → Reading σ) (s : σ) : Yields (e.foldAttributes f s) s := by
  have hnone : (⟨name, []⟩ : Tag).attributes = [] := by
    show (writtenTag name []).attributes = []
    exact attributes_writtenTag (fun _ h => nomatch h) List.nodup_nil
  unfold Element.foldAttributes
  rw [h, hnone]
  exact Yields.pure s

variable {onText : σ → List Char → Reading σ} {onChild : σ → Element → Reading σ}

/-- The element of a text as it is read again. -/
def textElementAgain (name text : String) : Element :=
  ⟨⟨name, []⟩, Node.normalizedAll (textNodes text), .closed⟩

theorem yields_textElement (name text : String) :
    Yields (textElementAgain name text).text (normalizedText text) := yields_text _ text

/-- An element fills the field of its local name. -/
theorem field_textElementAgain {name field : String} (h : localName name = field) (text : String) :
    (textElementAgain name text).field = field := h

theorem yields_optional {parent : Tag} (hp : ∀ scope uri, parent.isNil scope uri = false)
    (name text : String) :
    Yields ((textElementAgain name text).optionalText parent) (some (normalizedText text)) :=
  yields_optionalText (isNil_bare name) hp (yields_textElement name text)

theorem yields_visit_textElement {s t : σ} {name text : String}
    (h : Yields (onChild s (textElementAgain name text)) t) :
    Yields (Node.visit onText onChild s (textElement name text).normalized) t := by
  unfold textElement
  rw [Node.normalized]
  exact yields_visit (checkBindings_bare name) h

/-- An optional element is visited if it is there. -/
theorem yields_visit_optionalElement {s t : σ} {name : String} {text : Option String}
    (hnone : text = none → s = t)
    (hsome : ∀ x, text = some x → Yields (onChild s (textElementAgain name x)) t) :
    Yields ((Node.normalizedAll (optionalElement name text)).foldlM (Node.visit onText onChild) s)
      t := by
  unfold optionalElement
  cases text with
  | none =>
      rw [hnone rfl]
      exact Yields.pure t
  | some x =>
      exact Yields.foldlM_cons (yields_visit_textElement (hsome x rfl)) (Yields.pure t)

theorem normalizedAll_append (ms ns : List Node) :
    Node.normalizedAll (ms ++ ns) = Node.normalizedAll ms ++ Node.normalizedAll ns := by
  induction ms with
  | nil => rw [List.nil_append, Node.normalizedAll, List.nil_append]
  | cons n r ih =>
      rw [List.cons_append, Node.normalizedAll, Node.normalizedAll, ih]
      rfl

-- ============================================================== owner

theorem OwnerFields.child_of_id {e : Element} (he : e.field = "ID") (parent : Tag)
    (f : OwnerFields) :
    OwnerFields.child parent f e = (do return { f with id := ← once "ID" f.id e.text }) := by
  unfold OwnerFields.child
  simp only [he]

theorem OwnerFields.child_of_displayName {e : Element} (he : e.field = "DisplayName")
    (parent : Tag) (f : OwnerFields) :
    OwnerFields.child parent f e = (do
      let text := e.optionalText parent
      return { f with displayName := ← once "DisplayName" f.displayName text }) := by
  unfold OwnerFields.child
  simp only [he]

-- ============================================================ grantee

/-- The fields of a grantee that hold an optional text, in the order in
which they are written. -/
inductive TextField where
  | id
  | displayName
  | uri
  | emailAddress

namespace TextField

/-- The name of the element of a field. -/
def name : TextField → String
  | id => "ID"
  | displayName => "DisplayName"
  | uri => "URI"
  | emailAddress => "EmailAddress"

/-- What is read of a field so far. -/
def get (f : GranteeFields) : TextField → Option (Option String)
  | id => f.id
  | displayName => f.displayName
  | uri => f.uri
  | emailAddress => f.emailAddress

/-- Fills a field. -/
def set (f : GranteeFields) (value : Option (Option String)) : TextField → GranteeFields
  | id => { f with id := value }
  | displayName => { f with displayName := value }
  | uri => { f with uri := value }
  | emailAddress => { f with emailAddress := value }

theorem localName_name (field : TextField) : localName field.name = field.name := by
  cases field <;> decide

/-- A child that is named like a field fills it. -/
theorem child_eq {field : TextField} {e : Element} (he : e.field = field.name) (parent : Tag)
    (f : GranteeFields) :
    GranteeFields.child parent f e = (do
      let text := e.optionalText parent
      return field.set f (← once field.name (field.get f) text)) := by
  unfold GranteeFields.child
  cases field with
  | id => simp only [he, name, get, set]
  | displayName => simp only [he, name, get, set]
  | uri => simp only [he, name, get, set]
  | emailAddress => simp only [he, name, get, set]

end TextField

/-- The attributes of the element of a grantee. -/
def granteeAttributes (g : Grantee) : List (String × String) :=
  [("xmlns:xsi", g.schemaInstance), ("xsi:type", g.type.name)]

theorem granteeNode_eq (g : Grantee) :
    granteeNode g = .element (writtenTag "Grantee" (granteeAttributes g))
      (optionalElement "ID" g.id ++ optionalElement "DisplayName" g.displayName
        ++ optionalElement "URI" g.uri ++ optionalElement "EmailAddress" g.emailAddress)
      .closed := by
  unfold granteeNode writtenTag granteeAttributes
  simp only [List.flatMap_cons, List.flatMap_nil, List.append_nil]

theorem isName_granteeAttributes (g : Grantee) : ∀ a ∈ granteeAttributes g, IsName a.1 := by
  have hall : ∀ n ∈ ["xmlns:xsi", "xsi:type"], IsName n := by decide
  exact fun a ha => hall a.1 (List.mem_map_of_mem (f := Prod.fst) ha)

theorem nodup_granteeAttributes (g : Grantee) : ((granteeAttributes g).map Prod.fst).Nodup := by
  show ["xmlns:xsi", "xsi:type"].Nodup
  decide

theorem isNil_grantee (g : Grantee) (scope : Scope) (uri : String) :
    (writtenTag "Grantee" (granteeAttributes g)).isNil scope uri = false := by
  have hall : ∀ n ∈ ["xmlns:xsi", "xsi:type"], localName n ≠ "nil" := by decide
  exact isNil_writtenTag (isName_granteeAttributes g) (nodup_granteeAttributes g)
    (fun a ha => hall a.1 (List.mem_map_of_mem (f := Prod.fst) ha)) scope uri

/-- The namespace of the type attribute may be bound. -/
theorem checkBindings_grantee {g : Grantee} (h : g.schemaInstance = xsiNamespace) :
    (writtenTag "Grantee" (granteeAttributes g)).checkBindings = .ok () := by
  refine checkBindings_writtenTag (isName_granteeAttributes g) ?_
  intro a ha b hb
  unfold granteeAttributes at ha
  rw [h] at ha
  rcases List.mem_cons.1 ha with rfl | ha
  · have hbound : (writtenAttribute ("xmlns:xsi", xsiNamespace)).binding?
        = some (some "xsi", xsiNamespace) := by decide
    rw [hbound] at hb
    cases hb
    decide
  · rw [List.mem_singleton.1 ha] at hb
    have hnone : boundPrefix? "xsi:type" = none := by decide
    unfold Attribute.binding? writtenAttribute at hb
    rw [hnone] at hb
    cases hb

/-- A written attribute has its text, whatever characters stand in it. -/
theorem yields_attributeText (a : String × String) :
    Yields (writtenAttribute a).text a.2 := by
  have h : Yields (do return .ofList (← Reading.ofMarkup (unescape (escapeInValue a.2.toList))))
      (String.ofList a.2.toList) :=
    (Yields.ofMarkup (unescape_escapeInValue _)).bind (Yields.pure _)
  rw [String.ofList_toList] at h
  exact h

theorem GranteeFields.ofAttribute_schemaInstance {a : Attribute} (ha : a.field = "@xmlns:xsi")
    (f : GranteeFields) :
    f.ofAttribute a = (do
      return { f with schemaInstance := ← once "@xmlns:xsi" f.schemaInstance a.text }) := by
  unfold GranteeFields.ofAttribute GranteeFields.put
  simp only [ha, Option.getD_some]

theorem GranteeFields.ofAttribute_type {a : Attribute} (ha : a.field = "@type")
    (f : GranteeFields) :
    f.ofAttribute a = (do
      let type : Reading GranteeType := do ofAclText (GranteeType.parse (← a.text))
      return { f with type := ← once "@type" f.type type }) := by
  unfold GranteeFields.ofAttribute GranteeFields.put
  simp only [ha, Option.getD_some]

/-- The attributes of a grantee are its namespace and its type. -/
theorem yields_granteeAttributes (g : Grantee) (inside : List Node) :
    Yields (Element.foldAttributes ⟨writtenTag "Grantee" (granteeAttributes g), inside, .closed⟩
      GranteeFields.ofAttribute {})
      { schemaInstance := some g.schemaInstance, type := some g.type } := by
  have hparse : GranteeType.parse g.type.name = .ok g.type := by
    unfold GranteeType.parse
    rw [GranteeType.ofName?_name]
  have htype : Yields (do
      ofAclText (GranteeType.parse (← (writtenAttribute ("xsi:type", g.type.name)).text)))
      g.type := by
    refine (yields_attributeText _).bind ?_
    rw [hparse]
    exact Yields.pure _
  have hschema : Yields (GranteeFields.ofAttribute {}
      (writtenAttribute ("xmlns:xsi", g.schemaInstance)))
      { schemaInstance := some g.schemaInstance } := by
    have hfield : (writtenAttribute ("xmlns:xsi", g.schemaInstance)).field = "@xmlns:xsi" := by
      have hbound : (boundPrefix? "xmlns:xsi").isSome = true := by decide
      unfold Attribute.field writtenAttribute
      rw [hbound]
      rfl
    rw [GranteeFields.ofAttribute_schemaInstance hfield]
    exact (Yields.once _ (yields_attributeText _)).bind (Yields.pure _)
  have hkind : Yields (GranteeFields.ofAttribute { schemaInstance := some g.schemaInstance }
      (writtenAttribute ("xsi:type", g.type.name)))
      { schemaInstance := some g.schemaInstance, type := some g.type } := by
    have hfield : (writtenAttribute ("xsi:type", g.type.name)).field = "@type" := by
      have hbound : (boundPrefix? "xsi:type").isSome = false := by decide
      have hlocal : localName "xsi:type" = "type" := by decide
      unfold Attribute.field writtenAttribute
      rw [hbound, hlocal]
      rfl
    rw [GranteeFields.ofAttribute_type hfield]
    exact (Yields.once _ htype).bind (Yields.pure _)
  unfold Element.foldAttributes
  rw [attributes_writtenTag (isName_granteeAttributes g) (nodup_granteeAttributes g)]
  exact Yields.foldlM_cons hschema (Yields.foldlM_cons hkind (Yields.pure _))

-- ============================================================= grants

theorem GrantFields.child_of_grantee {e : Element} (he : e.field = "Grantee") (f : GrantFields) :
    f.child e = (do return { f with grantee := ← once "Grantee" f.grantee (readGrantee e) }) := by
  unfold GrantFields.child
  simp only [he]

theorem GrantFields.child_of_permission {e : Element} (he : e.field = "Permission")
    (f : GrantFields) :
    f.child e = (do
      let permission : Reading Permission := do ofAclText (Permission.parse (← e.text))
      return { f with permission := ← once "Permission" f.permission permission }) := by
  unfold GrantFields.child
  simp only [he]

/-- The name of a permission has no line ends. -/
theorem parse_normalizedText_name (q : Permission) :
    Permission.parse (normalizedText q.name) = .ok q := by
  have hsame : normalizedText q.name = q.name := by cases q <;> decide
  unfold Permission.parse
  rw [hsame, Permission.ofName?_name]

-- ============================================================= policy

theorem PolicyFields.child_of_owner {e : Element} (he : e.field = "Owner") (f : PolicyFields) :
    f.child e = (do return { f with owner := ← once "Owner" f.owner (readOwner e) }) := by
  unfold PolicyFields.child
  simp only [he]

theorem PolicyFields.child_of_grants {e : Element} (he : e.field = "AccessControlList")
    (f : PolicyFields) :
    f.child e = (do
      return { f with grants := ← once "AccessControlList" f.grants (readGrants e) }) := by
  unfold PolicyFields.child
  simp only [he]

/-- Any other child is passed over. -/
theorem PolicyFields.child_of_other {e : Element} (howner : e.field ≠ "Owner")
    (hlist : e.field ≠ "AccessControlList") (f : PolicyFields) :
    f.child e = (do
      e.skip
      return f) := by
  unfold child
  split
  · rename_i h
    exact absurd h howner
  · rename_i h
    exact absurd h hlist
  · rfl

end Document

end BucketAcl
