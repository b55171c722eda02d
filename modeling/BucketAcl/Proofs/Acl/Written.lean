/-
What is written for a policy. Whatever characters stand in its texts, it
is written in elements that hold a text or elements; and these lay out
the policy, with nothing among them that a policy has no place for.

Main statements: `isLaidOut_policyAgain` and `isDocument_toXml`.
-/
import BucketAcl.Proofs.Acl.Layout

namespace BucketAcl

open Xml

namespace Document

-- ============================================================ written

theorem isWritten_bare {name : String} (h : IsName name) : (⟨name, []⟩ : Tag).IsWritten := by
  show (writtenTag name []).IsWritten
  exact isWritten_writtenTag h (fun _ h => nomatch h)

/-- The element of a text is written as one, empty or not. -/
theorem isWritten_textElement {name : String} (h : IsName name) (text : String) :
    (textElement name text).IsWritten := by
  unfold textElement textNodes
  by_cases ht : text = ""
  · rw [if_pos ht]
    exact .elements (isWritten_bare h) (fun _ h => nomatch h)
  · rw [if_neg ht]
    have hne : text.toList ≠ [] := fun hnil => ht (String.toList_eq_nil_iff.1 hnil)
    exact .text (isWritten_bare h) (piecesOf_ne_nil hne) (isRun_piecesOf _)

theorem isWritten_optionalElement {name : String} (h : IsName name) {text : Option String} :
    ∀ n ∈ optionalElement name text, n.IsWritten := by
  intro n hn
  unfold optionalElement at hn
  cases text with
  | none => cases hn
  | some x =>
      rw [List.mem_singleton.1 hn]
      exact isWritten_textElement h x

theorem isWritten_ownerNode (o : Owner) : (ownerNode o).IsWritten := by
  refine .elements (isWritten_bare (by decide)) ?_
  intro n hn
  rcases List.mem_cons.1 hn with rfl | hn
  · exact isWritten_textElement (by decide) o.id
  · exact isWritten_optionalElement (by decide) n hn

theorem isWritten_granteeNode (g : Grantee) : (granteeNode g).IsWritten := by
  rw [granteeNode_eq]
  refine .elements (isWritten_writtenTag (by decide) (isName_granteeAttributes g)) ?_
  intro n hn
  simp only [List.mem_append] at hn
  rcases hn with ((hn | hn) | hn) | hn
  · exact isWritten_optionalElement (by decide) n hn
  · exact isWritten_optionalElement (by decide) n hn
  · exact isWritten_optionalElement (by decide) n hn
  · exact isWritten_optionalElement (by decide) n hn

theorem isWritten_grantNode (g : Grant) : (grantNode g).IsWritten := by
  refine .elements (isWritten_bare (by decide)) ?_
  intro n hn
  rcases List.mem_cons.1 hn with rfl | hn
  · exact isWritten_granteeNode g.grantee
  · rw [List.mem_singleton.1 hn]
    exact isWritten_textElement (by decide) g.permission.name

theorem isWritten_grantsNode (gs : List Grant) :
    (Node.element ⟨"AccessControlList", []⟩ (gs.map grantNode) .closed).IsWritten := by
  refine .elements (isWritten_bare (by decide)) ?_
  intro n hn
  obtain ⟨g, _, rfl⟩ := List.mem_map.1 hn
  exact isWritten_grantNode g

/-- A policy is written in elements that hold a text or elements. -/
theorem isWritten_policyNode (p : Policy) : (policyNode p).IsWritten := by
  refine .elements (isWritten_bare (by decide)) ?_
  intro n hn
  rcases List.mem_cons.1 hn with rfl | hn
  · exact isWritten_ownerNode p.owner
  · rw [List.mem_singleton.1 hn]
    exact isWritten_grantsNode p.grants

/-- The document of a written element has this element at its root, whose
tag is left in scope. -/
theorem run_root_text {name : String} {inside : List Node}
    (h : (Node.element ⟨name, []⟩ inside .closed).IsWritten) (expected : String) :
    (root expected (Node.element ⟨name, []⟩ inside .closed).text).run []
      = .ok (⟨⟨name, []⟩, Node.normalizedAll inside, .closed⟩, [⟨name, []⟩]) := by
  unfold root Node.text
  rw [String.toList_ofList, h.parse_write, Node.normalized]
  dsimp only
  unfold rootOf
  rw [checkBindings_bare]
  rfl

/-- The root of a written document. -/
theorem rootOf?_text {name : String} {inside : List Node}
    (h : (Node.element ⟨name, []⟩ inside .closed).IsWritten) :
    rootOf? (Node.element ⟨name, []⟩ inside .closed).text
      = some ⟨⟨name, []⟩, Node.normalizedAll inside, .closed⟩ := by
  unfold rootOf?
  rw [run_root_text h]
  rfl

-- ====================================================== as read again

/-- The element of a text holds this, as it is read again. -/
theorem isTextOf_textElementAgain (name text : String) :
    (textElementAgain name text).IsTextOf name (normalizedText text) := by
  refine ⟨rfl, ?_⟩
  unfold textElementAgain textNodes normalizedText
  by_cases htext : text = ""
  · rw [if_pos htext, Node.normalizedAll, htext]
    exact ⟨rfl, [], rfl, rfl⟩
  · rw [if_neg htext, Node.normalizedAll, Node.normalizedAll, Node.normalized]
    refine ⟨rfl, [Token.normalizeLineEnds text.toList], ?_, ?_⟩
    · show [_].mapM resolveRun = _
      rw [List.mapM_cons, resolveRun_piecesOf]
      rfl
    · rw [String.toList_ofList, List.flatten_singleton]

theorem ofNode?_textElement (name text : String) :
    Element.ofNode? (textElement name text).normalized = some (textElementAgain name text) := by
  unfold textElement
  rw [Node.normalized]
  rfl

/-- The elements that are written for an optional text. -/
def optionalAgain (name : String) (text : Option String) : List Element :=
  (text.map (textElementAgain name)).toList

theorem filterMap_ofNode?_optionalElement (name : String) (text : Option String) :
    (Node.normalizedAll (optionalElement name text)).filterMap Element.ofNode?
      = optionalAgain name text := by
  unfold optionalElement optionalAgain
  cases text with
  | none =>
      rw [Option.map_none, Option.toList_none, Node.normalizedAll]
      rfl
  | some x =>
      rw [Option.map_some, Option.toList_some, Node.normalizedAll, Node.normalizedAll,
        List.filterMap_cons_some (ofNode?_textElement name x)]
      rfl

/-- They fill the field of their name. -/
theorem field_of_mem_optionalAgain {name : String} {text : Option String} {c : Element}
    (h : c ∈ optionalAgain name text) : c.field = localName name := by
  obtain ⟨x, -, rfl⟩ := Option.map_eq_some_iff.1 (Option.mem_toList.1 h)
  exact field_textElementAgain rfl x

theorem filter_optionalAgain (name field : String) (text : Option String) :
    (optionalAgain name text).filter (·.field = field)
      = if localName name = field then optionalAgain name text else [] := by
  split
  · rename_i h
    exact List.filter_eq_self.2 fun c hc =>
      decide_eq_true ((field_of_mem_optionalAgain hc).trans h)
  · rename_i h
    exact List.filter_eq_nil_iff.2 fun c hc hfield =>
      h ((field_of_mem_optionalAgain hc).symm.trans (of_decide_eq_true hfield))

theorem filled_optionalAgain (name : String) (text : Option String) :
    Filled (Element.IsTextOf name) (text.map normalizedText) (optionalAgain name text) := by
  unfold optionalAgain
  cases text with
  | none => exact .nil
  | some x => exact .cons (isTextOf_textElementAgain name x) .nil

/-- The element that is written for an owner, as it is read again. -/
def ownerAgain (o : Owner) : Element :=
  ⟨⟨"Owner", []⟩, Node.normalizedAll
    (textElement "ID" o.id :: optionalElement "DisplayName" o.displayName), .closed⟩

theorem ofNode?_ownerNode (o : Owner) :
    Element.ofNode? (ownerNode o).normalized = some (ownerAgain o) := by
  unfold ownerNode
  rw [Node.normalized]
  rfl

theorem children_ownerAgain (o : Owner) :
    (ownerAgain o).children
      = optionalAgain "ID" (some o.id) ++ optionalAgain "DisplayName" o.displayName := by
  unfold ownerAgain Element.children
  rw [Node.normalizedAll, List.filterMap_cons_some (ofNode?_textElement _ _),
    filterMap_ofNode?_optionalElement]
  rfl

theorem isLaidOut_ownerAgain (o : Owner) : o.normalized.IsLaidOut (ownerAgain o) := by
  have hid : (ownerAgain o).childrenNamed "ID" = optionalAgain "ID" (some o.id) := by
    unfold Element.childrenNamed
    rw [children_ownerAgain, List.filter_append, filter_optionalAgain, filter_optionalAgain,
      if_pos (by decide), if_neg (by decide), List.append_nil]
  have hdisplay : (ownerAgain o).childrenNamed "DisplayName"
      = optionalAgain "DisplayName" o.displayName := by
    unfold Element.childrenNamed
    rw [children_ownerAgain, List.filter_append, filter_optionalAgain, filter_optionalAgain,
      if_neg (by decide), if_pos (by decide), List.nil_append]
  exact ⟨rfl, hid ▸ filled_optionalAgain "ID" (some o.id), hdisplay ▸ filled_optionalAgain _ _⟩

theorem unknownInOwner_ownerAgain (o : Owner) : unknownInOwner (ownerAgain o) = [] := by
  unfold unknownInOwner
  rw [children_ownerAgain, List.filter_eq_nil_iff]
  intro c hc hno
  have hfield : c.field ∈ ["ID", "DisplayName"] := by
    rcases List.mem_append.1 hc with hc | hc
    · rw [field_of_mem_optionalAgain hc]
      decide
    · rw [field_of_mem_optionalAgain hc]
      decide
  exact of_decide_eq_true hno hfield

/-- The element that is written for a grantee, as it is read again. -/
def granteeAgain (g : Grantee) : Element :=
  ⟨writtenTag "Grantee" (granteeAttributes g), Node.normalizedAll
    (optionalElement "ID" g.id ++ optionalElement "DisplayName" g.displayName
      ++ optionalElement "URI" g.uri ++ optionalElement "EmailAddress" g.emailAddress), .closed⟩

theorem ofNode?_granteeNode (g : Grantee) :
    Element.ofNode? (granteeNode g).normalized = some (granteeAgain g) := by
  rw [granteeNode_eq, Node.normalized]
  rfl

theorem field_granteeAgain (g : Grantee) : (granteeAgain g).field = "Grantee" :=
  show localName "Grantee" = "Grantee" by decide

theorem children_granteeAgain (g : Grantee) :
    (granteeAgain g).children = [TextField.id, .displayName, .uri, .emailAddress].flatMap
      fun field => optionalAgain field.name (field.textOf g) := by
  unfold granteeAgain Element.children
  rw [normalizedAll_append, normalizedAll_append, normalizedAll_append]
  simp only [List.filterMap_append, filterMap_ofNode?_optionalElement, List.flatMap_cons,
    List.flatMap_nil, List.append_nil, List.append_assoc]
  rfl

theorem isLaidOut_granteeAgain (g : Grantee) : g.normalized.IsLaidOut (granteeAgain g) := by
  have hfield {c : Element} (hc : c ∈ (granteeAgain g).children) :
      ∃ field : TextField, c.field = field.name := by
    rw [children_granteeAgain] at hc
    obtain ⟨field, -, hc⟩ := List.mem_flatMap.1 hc
    exact ⟨field, (field_of_mem_optionalAgain hc).trans field.localName_name⟩
  have hnamed (field : TextField) : (granteeAgain g).childrenNamed field.name
      = optionalAgain field.name (field.textOf g) := by
    unfold Element.childrenNamed
    rw [children_granteeAgain, List.filter_flatMap]
    simp only [filter_optionalAgain, TextField.localName_name]
    cases field <;> simp [TextField.name]
  refine ⟨rfl, fun field => ?_, fun c hc => ?_⟩
  · rw [hnamed]
    have hfilled := filled_optionalAgain field.name (field.textOf g)
    cases field <;> exact hfilled
  · obtain ⟨field, hname⟩ := hfield hc
    rw [hname]
    cases field <;> decide

theorem unknownInGrantee_granteeAgain (g : Grantee) : unknownInGrantee (granteeAgain g) = [] := by
  unfold unknownInGrantee
  rw [children_granteeAgain, List.filter_eq_nil_iff]
  intro c hc hno
  obtain ⟨field, -, hc⟩ := List.mem_flatMap.1 hc
  have hname := (field_of_mem_optionalAgain hc).trans field.localName_name
  exact of_decide_eq_true hno (TextField.mem_names_iff.2 ⟨field, hname⟩)

/-- A grant as it is read again. -/
def grantAgain (g : Grant) : Element :=
  ⟨⟨"Grant", []⟩, Node.normalizedAll [granteeNode g.grantee, textElement "Permission"
    g.permission.name], .closed⟩

theorem field_permissionAgain (text : String) :
    (textElementAgain "Permission" text).field = "Permission" :=
  field_textElementAgain (by decide) text

theorem children_grantAgain (g : Grant) : (grantAgain g).children
    = [granteeAgain g.grantee, textElementAgain "Permission" g.permission.name] := by
  unfold grantAgain Element.children
  simp only [Node.normalizedAll, List.filterMap_cons, ofNode?_granteeNode, ofNode?_textElement,
    List.filterMap_nil]

theorem isLaidOut_grantAgain (g : Grant) : g.normalized.IsLaidOut (grantAgain g) := by
  have hname : normalizedText g.permission.name = g.permission.name :=
    Permission.parse_eq_ok_iff.1 (parse_normalizedText_name g.permission)
  refine ⟨rfl, ?_, ?_⟩
  · have hnamed : (grantAgain g).childrenNamed "Grantee" = [granteeAgain g.grantee] := by
      unfold Element.childrenNamed
      rw [children_grantAgain]
      simp [field_granteeAgain, field_permissionAgain]
    rw [hnamed]
    exact .cons (isLaidOut_granteeAgain g.grantee) .nil
  · have hnamed : (grantAgain g).childrenNamed "Permission"
        = [textElementAgain "Permission" g.permission.name] := by
      unfold Element.childrenNamed
      rw [children_grantAgain]
      simp [field_granteeAgain, field_permissionAgain]
    have htext := isTextOf_textElementAgain "Permission" g.permission.name
    rw [hname] at htext
    rw [hnamed]
    exact .cons htext .nil

theorem unknownInGrant_grantAgain (g : Grant) : unknownInGrant (grantAgain g) = [] := by
  unfold unknownInGrant
  rw [children_grantAgain]
  simp [field_granteeAgain, field_permissionAgain, unknownInGrantee_granteeAgain]

/-- The element that is written for grants, as it is read again. -/
def grantsAgain (gs : List Grant) : Element :=
  ⟨⟨"AccessControlList", []⟩, Node.normalizedAll (gs.map grantNode), .closed⟩

theorem ofNode?_grantsNode (gs : List Grant) :
    Element.ofNode? (Node.element ⟨"AccessControlList", []⟩ (gs.map grantNode) .closed).normalized
      = some (grantsAgain gs) := by
  rw [Node.normalized]
  rfl

/-- Grants are written one after the other. -/
theorem normalizedAll_grants (gs : List Grant) :
    Node.normalizedAll (gs.map grantNode) = gs.map fun g => (grantAgain g).node := by
  induction gs with
  | nil => rw [List.map_nil, Node.normalizedAll, List.map_nil]
  | cons g r ih =>
      have hnode : (grantNode g).normalized = (grantAgain g).node := by
        unfold grantNode
        rw [Node.normalized]
        rfl
      rw [List.map_cons, Node.normalizedAll, ih, hnode, List.map_cons]

theorem children_grantsAgain (gs : List Grant) : (grantsAgain gs).children = gs.map grantAgain := by
  unfold grantsAgain Element.children
  rw [normalizedAll_grants, List.filterMap_map]
  exact congrFun List.filterMap_eq_map' gs

theorem areLaidOut_grantsAgain (gs : List Grant) :
    Grant.AreLaidOut (gs.map Grant.normalized) (grantsAgain gs) := by
  refine ⟨rfl, ?_, fun pieces hrun => ?_⟩
  · rw [children_grantsAgain, List.forall₂_map_left_iff, List.forall₂_map_right_iff,
      List.forall₂_same]
    exact fun g _ => isLaidOut_grantAgain g
  · have hmem : Node.run pieces ∈ Node.normalizedAll (gs.map grantNode) := hrun
    rw [normalizedAll_grants] at hmem
    obtain ⟨g, -, hg⟩ := List.mem_map.1 hmem
    cases hg

/-- The root that is written for a policy, as it is read again. -/
def policyAgain (p : Policy) : Element :=
  ⟨⟨"AccessControlPolicy", []⟩, Node.normalizedAll
    [ownerNode p.owner, .element ⟨"AccessControlList", []⟩ (p.grants.map grantNode) .closed],
    .closed⟩

theorem children_policyAgain (p : Policy) :
    (policyAgain p).children = [ownerAgain p.owner, grantsAgain p.grants] := by
  unfold policyAgain Element.children
  simp only [Node.normalizedAll, List.filterMap_cons, ofNode?_ownerNode, ofNode?_grantsNode,
    List.filterMap_nil]

theorem field_ownerAgain (o : Owner) : (ownerAgain o).field = "Owner" :=
  show localName "Owner" = "Owner" by decide

theorem field_grantsAgain (gs : List Grant) : (grantsAgain gs).field = "AccessControlList" :=
  show localName "AccessControlList" = "AccessControlList" by decide

/-- A policy is laid out in what is written for it. -/
theorem isLaidOut_policyAgain (p : Policy) : p.normalized.IsLaidOut (policyAgain p) := by
  refine ⟨rfl, ⟨[], .nil (fun _ h => nomatch h), .inl rfl⟩, ?_, ?_⟩
  · have hnamed : (policyAgain p).childrenNamed "Owner" = [ownerAgain p.owner] := by
      unfold Element.childrenNamed
      rw [children_policyAgain]
      simp [field_ownerAgain, field_grantsAgain]
    rw [hnamed]
    exact .cons (isLaidOut_ownerAgain p.owner) .nil
  · have hnamed : (policyAgain p).childrenNamed "AccessControlList" = [grantsAgain p.grants] := by
      unfold Element.childrenNamed
      rw [children_policyAgain]
      simp [field_ownerAgain, field_grantsAgain]
    rw [hnamed]
    exact .cons (areLaidOut_grantsAgain p.grants) .nil

theorem unknownInGrants_grantsAgain (gs : List Grant) :
    (grantsAgain gs).children.flatMap unknownInGrant = [] := by
  rw [children_grantsAgain, List.flatMap_eq_nil_iff]
  intro e he
  obtain ⟨g, -, rfl⟩ := List.mem_map.1 he
  exact unknownInGrant_grantAgain g

/-- Nothing is written that a policy has no place for. -/
theorem unknownInPolicy_policyAgain (p : Policy) : unknownInPolicy (policyAgain p) = [] := by
  unfold unknownInPolicy
  rw [children_policyAgain]
  simp [field_ownerAgain, field_grantsAgain, unknownInOwner_ownerAgain, unknownInGrants_grantsAgain]

/-- The document of a policy has the element at its root that is written
for the policy. -/
theorem isDocument_toXml (p : Policy) : IsDocument p.toXml (policyAgain p) := by
  have hwritten := isWritten_policyNode p
  have htext : p.toXml.toList = (policyNode p).write := String.toList_ofList
  refine ⟨?_, [], [], ?_, fun _ hn => nomatch hn⟩
  · rw [htext, hwritten.head?_write]
    decide
  · rw [htext]
    have hnode : (policyNode p).normalized = (policyAgain p).node := by
      unfold policyNode
      rw [Node.normalized]
      rfl
    exact hnode ▸ hwritten.spells

end Document

end BucketAcl
