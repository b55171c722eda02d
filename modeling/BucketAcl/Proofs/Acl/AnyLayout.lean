/-
Documents of a policy in any layout. Stores put their documents in lines,
order the parts in ways of their own and add elements. Whatever lays out
a policy is read as the policy that it lays out, with one exception: of
the elements that are passed over a few tags are looked at all the same,
and one that binds a prefix against the rules is not let pass. The rules
are held against the value of an attribute as it is written.

Main statement: `ofXml_of_isLaidOut`.
-/
import BucketAcl.Proofs.Acl.Accepted
import BucketAcl.Proofs.Acl.Edits

namespace BucketAcl

open Xml Document

namespace Policy

/-- What is read of a policy does not depend on how it is laid out. Its own
document lays it out if its texts are plain, and so does this however it
is changed: in the white space and the comments between the tags, in the
order of the parts, in the namespace of the root, and in the elements that
are put in and that a part has no place for. Whatever text lays it out is
read as this policy, if all that is put in can be passed over; if something
cannot, the text is refused for a binding against the rules. -/
theorem ofXml_of_isLaidOut {p : Policy}
    (h : ∀ g ∈ p.grants, g.grantee.schemaInstance = xsiNamespace) :
    ((∀ s ∈ p.texts, IsPlain s) →
        ∃ root, IsDocument p.toXml root ∧ unknownInPolicy root = []
          ∧ ∀ root', Relation.ReflTransGen PolicyEdit root root' → p.IsLaidOut root')
      ∧ ∀ text root, IsDocument text root → p.IsLaidOut root →
        ((∀ e ∈ unknownInPolicy root, e.IsPassable) → ofXml text = .ok p)
          ∧ ((∃ e ∈ unknownInPolicy root, ¬ e.IsPassable) →
            ∃ fault, ofXml text = .error (.markup (.binding fault))) := by
  refine ⟨fun hplain => ?_, fun text root htext hlaid => ?_⟩
  · have hlaid := isLaidOut_policyAgain p
    rw [normalized_eq_self hplain] at hlaid
    exact ⟨policyAgain p, isDocument_toXml p, unknownInPolicy_policyAgain p,
      fun _ hedits => hlaid.edits hedits⟩
  · obtain ⟨hok, herror⟩ := ofXml_of_isDocument h htext hlaid
    exact ⟨hok, fun ⟨e, he, hno⟩ => herror fun hall => hno (hall e he)⟩

/-- A root with a note between the grants and the owner. -/
def notedNode (p : Policy) : Node :=
  .element (writtenTag "AccessControlPolicy" [("xmlns", "urn:acl")])
    [.element ⟨"AccessControlList", []⟩ (p.grants.map grantNode) .closed,
      textElement "Note" "shared", ownerNode p.owner] .closed

/-- A document with a declaration, and with such a root on a line of its
own. -/
def notedDocument (p : Policy) : String := "<?xml version='1.0'?>\n" ++ (notedNode p).text

/-- The root as it is read again. -/
def notedRoot (p : Policy) : Element :=
  ⟨writtenTag "AccessControlPolicy" [("xmlns", "urn:acl")], Node.normalizedAll
    [.element ⟨"AccessControlList", []⟩ (p.grants.map grantNode) .closed,
      textElement "Note" "shared", ownerNode p.owner], .closed⟩

theorem isDocument_notedDocument (p : Policy) : IsDocument (notedDocument p) (notedRoot p) := by
  have hwritten : (notedNode p).IsWritten := by
    refine .elements (isWritten_writtenTag (by decide) (by decide)) ?_
    exact List.forall_mem_cons.2 ⟨isWritten_grantsNode p.grants, List.forall_mem_cons.2
      ⟨isWritten_textElement (by decide) _, List.forall_mem_singleton.2 (isWritten_ownerNode _)⟩⟩
  have hhead : "<?xml version='1.0'?>\n".toList
      = "<?".toList ++ ("xml version='1.0'".toList ++ ("?>".toList ++ "\n".toList)) := by decide
  have hnode : (notedNode p).normalized = (notedRoot p).node := by
    unfold notedNode
    rw [Node.normalized]
    rfl
  have hline : Spells ("\n".toList ++ (notedNode p).write)
      [.run [.text "\n".toList], (notedRoot p).node] := by
    have hgap : ∀ c ∈ ['\n'], Token.isText c = true := List.forall_mem_singleton.2 (by decide)
    refine @Spells.text "\n".toList _ _ (List.cons_ne_nil _ _) hgap ?_ (hnode ▸ hwritten.spells)
    rw [hwritten.head?_write]
    rintro c ⟨⟩
    decide
  have hblank : (Node.run [.text "\n".toList]).IsBlank := ⟨_, _, rfl, rfl, by decide⟩
  have htext : (notedDocument p).toList = "<?".toList ++ ("xml version='1.0'".toList
      ++ ("?>".toList ++ ("\n".toList ++ (notedNode p).write))) := by
    have hwrite : (notedNode p).text.toList = (notedNode p).write := String.toList_ofList
    unfold notedDocument
    rw [String.toList_append, hhead, hwrite, List.append_assoc, List.append_assoc, List.append_assoc]
  have hspells : Spells (notedDocument p).toList [.run [.text "\n".toList], (notedRoot p).node] := by
    have hinside : ¬ "?>".toList <:+: "xml version='1.0'".toList := fun h =>
      absurd (h.subset (show '?' ∈ "?>".toList by decide)) (by decide)
    rw [htext]
    exact .instruction (by decide) hinside hline
  refine ⟨?_, [.run [.text "\n".toList]], [], hspells, List.forall_mem_singleton.2 hblank⟩
  rw [htext, List.head?_append_of_ne_nil _ (by decide)]
  decide

theorem children_notedRoot (p : Policy) : (notedRoot p).children
    = [grantsAgain p.grants, textElementAgain "Note" "shared", ownerAgain p.owner] := by
  unfold notedRoot Element.children
  simp only [Node.normalizedAll, List.filterMap_cons, ofNode?_ownerNode, ofNode?_grantsNode,
    ofNode?_textElement, List.filterMap_nil]

theorem field_note : (textElementAgain "Note" "shared").field = "Note" :=
  field_textElementAgain (by decide) _

theorem isLaidOut_notedRoot (p : Policy) : p.normalized.IsLaidOut (notedRoot p) := by
  refine ⟨rfl, ⟨_, areSpelled_written (by decide), .inr ⟨_, rfl⟩⟩, ?_, ?_⟩
  · have howner : (notedRoot p).childrenNamed "Owner" = [ownerAgain p.owner] := by
      unfold Element.childrenNamed
      rw [children_notedRoot]
      simp [field_ownerAgain, field_grantsAgain, field_note]
    rw [howner]
    exact .cons (isLaidOut_ownerAgain p.owner) .nil
  · have hgrants : (notedRoot p).childrenNamed "AccessControlList" = [grantsAgain p.grants] := by
      unfold Element.childrenNamed
      rw [children_notedRoot]
      simp [field_ownerAgain, field_grantsAgain, field_note]
    rw [hgrants]
    exact .cons (areLaidOut_grantsAgain p.grants) .nil

theorem unknownInPolicy_notedRoot (p : Policy) :
    unknownInPolicy (notedRoot p) = [textElementAgain "Note" "shared"] := by
  unfold unknownInPolicy
  rw [children_notedRoot]
  simp [field_ownerAgain, field_grantsAgain, field_note, unknownInOwner_ownerAgain,
    unknownInGrants_grantsAgain]

/-- The note can be passed over, and the policy is read. -/
theorem ofXml_of_isLaidOut_notedDocument :
    ofXml (notedDocument sharedPolicy) = .ok sharedPolicy := by
  have h : ∀ g ∈ sharedPolicy.grants, g.grantee.schemaInstance = xsiNamespace := by decide
  have hlaid := isLaidOut_notedRoot sharedPolicy
  rw [show sharedPolicy.normalized = sharedPolicy by decide] at hlaid
  refine ((ofXml_of_isLaidOut h).2 _ _ (isDocument_notedDocument sharedPolicy) hlaid).1 ?_
  rw [unknownInPolicy_notedRoot, List.forall_mem_singleton]
  decide +kernel

-- ========================================================= not passed

/-- The tag of a note that binds `xml`. -/
def boundTag (value : List Char) : Tag := ⟨"Note", " xmlns:xml=\"".toList ++ (value ++ "\"".toList)⟩

theorem areSpelled_boundTag {value : List Char} (h : '"' ∉ value) :
    Attribute.AreSpelled [⟨"xmlns:xml", value⟩] (boundTag value).rest :=
  @Attribute.AreSpelled.cons [' '] [] [] value [] "xmlns:xml" '"' [] (by decide) (by decide)
    (by decide) (by decide) (by decide) (.inl rfl) h (.nil (by decide))

/-- The namespace of `xml`, one character of which is written by its
number. -/
def numberedNamespace : List Char := "http://www.w3.org/XML/1998/namespac&#101;".toList

/-- A note that binds `xml` to another namespace can stand in a document,
and so can one that binds it to its own. But the document of a policy is
refused if the one is put behind its parts, or the other is with a
character of the namespace written by its number. -/
theorem not_ofXml_boundTag :
    toXml {} = "<AccessControlPolicy><Owner><ID/></Owner><AccessControlList/>"
        ++ "</AccessControlPolicy>"
      ∧ unescape numberedNamespace = .ok xmlNamespace.toList
      ∧ ∀ value ∈ ["urn:note".toList, numberedNamespace],
        (boundTag value).IsWellFormed
          ∧ (boundTag value).attributes = [.ok ⟨"xmlns:xml", value⟩]
          ∧ ofXml ("<AccessControlPolicy><Owner><ID/></Owner><AccessControlList/>"
            ++ .ofList ('<' :: ((boundTag value).content ++ ['/', '>'])) ++ "</AccessControlPolicy>")
            = .error (.markup (.binding (.xmlElsewhere (.ofList value)))) := by
  have hquote : ∀ value ∈ ["urn:note".toList, numberedNamespace], '"' ∉ value := by decide
  refine ⟨by decide +kernel, by decide +kernel, fun value hvalue => ⟨?_, ?_, ?_⟩⟩
  · exact ⟨show IsName "Note" by decide, _, areSpelled_boundTag (hquote value hvalue)⟩
  · exact attributes_of_areSpelled (areSpelled_boundTag (hquote value hvalue))
      (List.pairwise_singleton _ _)
  · revert value
    decide +kernel

end Policy

end BucketAcl
