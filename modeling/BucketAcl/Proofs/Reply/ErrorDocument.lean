/-
The document that comes with a refusal. Its root gives a code and a
message, each once, and each of the other parts once at most; and what
is written for a refusal is read as that refusal again.

Main statements: `exists_root_of_ofXml`, `ofXml_written`.
-/
import BucketAcl.Proofs.Acl.Written
import BucketAcl.Reply.ErrorDocument

namespace BucketAcl.ErrorDocument

open Xml Document

-- =============================================================== parts

/-- The parts of a document. -/
inductive Part where
  | code
  | message
  | resource
  | requestId
  | hostId
  deriving DecidableEq

namespace Part

/-- Every part, in the order in which they are written. -/
def all : List Part := [code, message, resource, requestId, hostId]

/-- The name of the element that gives a part. -/
def name : Part → String
  | code => "Code"
  | message => "Message"
  | resource => "Resource"
  | requestId => "RequestId"
  | hostId => "HostId"

/-- What is read so far of a part. -/
def get (f : Fields) : Part → Option (Option String)
  | code => f.code.map some
  | message => f.message.map some
  | resource => f.resource
  | requestId => f.requestId
  | hostId => f.hostId

/-- Fills a part. A code and a message are always texts. -/
def set (f : Fields) (value : Option (Option String)) : Part → Fields
  | code => { f with code := value.join }
  | message => { f with message := value.join }
  | resource => { f with resource := value }
  | requestId => { f with requestId := value }
  | hostId => { f with hostId := value }

/-- Reads the text of an element for a part. -/
def read (parent : Tag) (e : Element) : Part → Reading (Option String)
  | code | message => some <$> e.text
  | resource | requestId | hostId => e.optionalText parent

/-- What an element gives for a part. A code and a message cannot be
declared to be nil. -/
def Gives (tags : List Tag) (parent : Tag) (value : Option String) (e : Element) : Part → Prop
  | code | message => ∃ text, value = some text ∧ e.HoldsText text
  | resource | requestId | hostId => e.MayHold tags parent value

variable {part other : Part} {f : Fields} {parent : Tag} {tags : List Tag} {e : Element}

theorem name_injective (h : part.name = other.name) : part = other := by
  revert h
  cases part <;> cases other <;> decide

theorem localName_name (part : Part) : localName part.name = part.name := by
  cases part <;> decide

/-- A part that is filled with what an element gives holds just that. -/
theorem get_set_self {value : Option String} (h : part.Gives tags parent value e) (f : Fields) :
    part.get (part.set f (some value)) = some value := by
  cases part with
  | code =>
      obtain ⟨text, rfl, -⟩ := h
      rfl
  | message =>
      obtain ⟨text, rfl, -⟩ := h
      rfl
  | resource => rfl
  | requestId => rfl
  | hostId => rfl

/-- The other parts stay as they are. -/
theorem get_set_of_ne (h : other ≠ part) (f : Fields) (value : Option (Option String)) :
    other.get (part.set f value) = other.get f := by
  revert h
  cases part <;> cases other <;> simp [get, set]

/-- A part that is empty stays so if nothing is filled in. -/
theorem set_none (h : part.get f = none) : part.set f none = f := by
  obtain ⟨code, message, resource, requestId, hostId⟩ := f
  cases part <;> simp_all [get, set]

theorem once_map_some {α : Type} (name : String) (former : Option α) (r : Reading α) :
    once name (former.map some) (some <$> r) = Option.map some <$> once name former r := by
  cases former with
  | none =>
      show some <$> some <$> r = Option.map some <$> some <$> r
      rw [Functor.map_map, Functor.map_map]
      rfl
  | some a => rfl

/-- An element fills the part of its name, if that is empty. -/
theorem child_eq (he : e.field = part.name) (parent : Tag) (f : Fields) :
    f.child parent e
      = (do return part.set f (← once part.name (part.get f) (part.read parent e))) := by
  have hjoin (value : Option String) : (value.map some).join = value := by
    cases value <;> rfl
  unfold Fields.child
  cases part with
  | code => simp [he, name, get, set, read, once_map_some, hjoin]
  | message => simp [he, name, get, set, read, once_map_some, hjoin]
  | resource => simp only [he, name, get, set, read]
  | requestId => simp only [he, name, get, set, read]
  | hostId => simp only [he, name, get, set, read]

/-- An element that gives no part is passed over. -/
theorem child_of_other (h : ∀ part : Part, e.field ≠ part.name) (parent : Tag) (f : Fields) :
    f.child parent e = (do
      e.skip
      return f) := by
  unfold Fields.child
  split
  · exact absurd ‹_› (h code)
  · exact absurd ‹_› (h message)
  · exact absurd ‹_› (h resource)
  · exact absurd ‹_› (h requestId)
  · exact absurd ‹_› (h hostId)
  · rfl

theorem ensures_read (hT : ∀ t ∈ e.tags, t ∈ tags) :
    Ensures (· ∈ tags) (part.read parent e) (part.Gives tags parent · e) := by
  have htext : Ensures (· ∈ tags) (some <$> e.text)
      fun value => ∃ text, value = some text ∧ e.HoldsText text :=
    (Element.ensures_text hT).bind fun text h => .pure ⟨text, rfl, h⟩
  cases part with
  | code => exact htext
  | message => exact htext
  | resource => exact Element.ensures_optionalText parent hT
  | requestId => exact Element.ensures_optionalText parent hT
  | hostId => exact Element.ensures_optionalText parent hT

end Part

-- ============================================================= reading

/-- A document that was read from a root: there is exactly one element
for the code, exactly one for the message, and for each of the other
parts one at most. -/
structure IsReadFrom (d : ErrorDocument) (root : Element) : Prop where
  code : ∃ c, root.childrenNamed "Code" = [c] ∧ c.HoldsText d.code
  message : ∃ c, root.childrenNamed "Message" = [c] ∧ c.HoldsText d.message
  resource : TakenFrom (fun text c => c.MayHold root.tags root.tag text) none
    (root.childrenNamed "Resource") d.resource
  requestId : TakenFrom (fun text c => c.MayHold root.tags root.tag text) none
    (root.childrenNamed "RequestId") d.requestId
  hostId : TakenFrom (fun text c => c.MayHold root.tags root.tag text) none
    (root.childrenNamed "HostId") d.hostId

/-- What is known of a document, once some of the elements inside were
read. -/
def Fields.Holds (tags : List Tag) (parent : Tag) (done : List Element) (f : Fields) : Prop :=
  ∀ part : Part, Filled (part.Gives tags parent) (part.get f) (done.filter (·.field = part.name))

variable {tags : List Tag} {parent : Tag}

/-- An element fills its own part and leaves the others. -/
theorem Fields.ensures_child {done : List Element} {f : Fields} (hf : f.Holds tags parent done)
    {e : Element} (hT : ∀ t ∈ e.tags, t ∈ tags) :
    Ensures (· ∈ tags) (f.child parent e) (Holds tags parent (done ++ [e])) := by
  by_cases hname : ∃ part : Part, e.field = part.name
  · obtain ⟨part, he⟩ := hname
    rw [Part.child_eq he]
    refine .bind (.once part.name (Part.ensures_read hT)) fun v hv => .pure fun other => ?_
    obtain ⟨hnone, value, hvalue, rfl⟩ := hv
    by_cases hother : other = part
    · subst hother
      rw [Part.get_set_self hvalue]
      exact (hf other).fill hnone (decide_eq_true he) hvalue
    · rw [Part.get_set_of_ne hother]
      refine (hf other).pass (decide_eq_false fun h => hother ?_)
      exact Part.name_injective (h.symm.trans he)
  · have hno : ∀ part : Part, e.field ≠ part.name := fun part h => hname ⟨part, h⟩
    rw [Part.child_of_other hno]
    exact .bind (Element.ensures_skip hT) fun _ _ => .pure fun part =>
      (hf part).pass (decide_eq_false (hno part))

theorem ensures_ofElement {e : Element} :
    Ensures (· ∈ e.tags) (ofElement e) (·.IsReadFrom e) := by
  have hfields : Ensures (· ∈ e.tags) (e.fold (fun f _ => pure f) (Fields.child e.tag) {})
      (Fields.Holds e.tags e.tag e.children) := by
    unfold Element.fold
    refine .bind (e.ensures_passAttributes _) fun f hf => ?_
    refine Element.ensures_foldChildren (I := Fields.Holds e.tags e.tag) (fun _ ht => ht) ?_
      (fun _ _ _ h => .pure h) fun _ _ _ hc h => Fields.ensures_child h hc
    subst hf
    intro part
    cases part <;> exact .nil
  have htext (part : Part) {f : Fields} {text : String} (hf : f.Holds e.tags e.tag e.children)
      (hpart : part.get f = some (some text))
      (hgives : ∀ c, part.Gives e.tags e.tag (some text) c → c.HoldsText text) :
      ∃ c, e.childrenNamed part.name = [c] ∧ c.HoldsText text := by
    obtain ⟨c, hc, hvalue⟩ := (hf part).exists_of_some hpart
    exact ⟨c, hc, hgives c hvalue⟩
  have hholds {text : String} (c : Element)
      (h : ∃ text', some text = some text' ∧ c.HoldsText text') : c.HoldsText text := by
    obtain ⟨_, ⟨⟩, h⟩ := h
    exact h
  unfold ofElement
  refine .bind hfields fun f hf => .bind (.required _ _) fun code hcode =>
    .bind (.required _ _) fun message hmessage => .pure ⟨?_, ?_, ?_, ?_, ?_⟩
  · exact htext .code hf (by rw [Part.get, hcode]; rfl) hholds
  · exact htext .message hf (by rw [Part.get, hmessage]; rfl) hholds
  · exact (hf .resource).takenFrom none
  · exact (hf .requestId).takenFrom none
  · exact (hf .hostId).takenFrom none

theorem ensures_ofElement_closed (e : Element) :
    Ensures (fun _ => True) (ofElement e) fun _ => e.ending = .closed := by
  unfold ofElement Element.fold
  exact .bind (.bind (.any _) fun _ _ => e.ensures_closed _ _ _) fun _ h =>
    .bind (.any _) fun _ _ => .bind (.any _) fun _ _ => .pure h

/-- The document of a text was read from its root. -/
theorem exists_root_of_ofXml {text : String} {d : ErrorDocument} (h : ofXml text = .ok d) :
    ∃ root, IsRoot text root ∧ d.IsReadFrom root :=
  exists_root_of_result (fun _ => ensures_ofElement) ensures_ofElement_closed h

-- ============================================================= writing

/-- The text of a part. -/
def textOf (d : ErrorDocument) : Part → Option String
  | .code => some d.code
  | .message => some d.message
  | .resource => d.resource
  | .requestId => d.requestId
  | .hostId => d.hostId

/-- The element that a store writes for a refusal. -/
def node (d : ErrorDocument) : Node :=
  .element ⟨"Error", []⟩ (Part.all.flatMap fun part => optionalElement part.name (d.textOf part))
    .closed

/-- The document that a store writes for a refusal. -/
def written (d : ErrorDocument) : String := d.node.text

/-- A document as it is read again. -/
def normalized (d : ErrorDocument) : ErrorDocument where
  code := normalizedText d.code
  message := normalizedText d.message
  resource := d.resource.map normalizedText
  requestId := d.requestId.map normalizedText
  hostId := d.hostId.map normalizedText

theorem isName_name (part : Part) : IsName part.name := by
  cases part <;> decide

theorem isWritten_node (d : ErrorDocument) : d.node.IsWritten := by
  refine .elements (isWritten_bare (by decide)) fun n hn => ?_
  obtain ⟨part, -, hn⟩ := List.mem_flatMap.1 hn
  exact isWritten_optionalElement (isName_name part) n hn

theorem yields_read (hp : ∀ scope uri, parent.isNil scope uri = false) (part : Part)
    (text : String) :
    Yields (part.read parent (textElementAgain part.name text)) (some (normalizedText text)) := by
  have htext : Yields (textElementAgain part.name text).text (normalizedText text) :=
    yields_textElement _ _
  have hoptional : Yields ((textElementAgain part.name text).optionalText parent)
      (some (normalizedText text)) := yields_optional hp _ _
  cases part with
  | code => exact htext.map some
  | message => exact htext.map some
  | resource => exact hoptional
  | requestId => exact hoptional
  | hostId => exact hoptional

/-- What is read again of a written part. -/
def again (d : ErrorDocument) (f : Fields) (part : Part) : Fields :=
  part.set f (((d.textOf part).map normalizedText).map some)

theorem yields_part (hp : ∀ scope uri, parent.isNil scope uri = false) (d : ErrorDocument)
    {part : Part} {f : Fields} (hf : part.get f = none) :
    Yields ((Node.normalizedAll (optionalElement part.name (d.textOf part))).foldlM
      (Node.visit (fun s _ => pure s) (Fields.child parent)) f) (d.again f part) := by
  unfold again
  refine yields_visit_optionalElement (fun h => ?_) fun x hx => ?_
  · rw [h]
    exact (Part.set_none hf).symm
  · rw [hx, Part.child_eq (field_textElementAgain part.localName_name x), hf]
    exact (Yields.once part.name (yields_read hp part x)).bind (.pure _)

/-- Parts that are written one after the other are filled one after the
other. -/
theorem yields_parts (hp : ∀ scope uri, parent.isNil scope uri = false) (d : ErrorDocument)
    {parts : List Part} (hparts : parts.Nodup) {f : Fields}
    (hf : ∀ part ∈ parts, part.get f = none) :
    Yields ((Node.normalizedAll
        (parts.flatMap fun part => optionalElement part.name (d.textOf part))).foldlM
      (Node.visit (fun s _ => pure s) (Fields.child parent)) f) (parts.foldl d.again f) := by
  induction parts generalizing f with
  | nil => exact .pure f
  | cons part r ih =>
      obtain ⟨hpart, hr⟩ := List.nodup_cons.1 hparts
      obtain ⟨hnone, hrest⟩ := List.forall_mem_cons.1 hf
      rw [List.flatMap_cons, normalizedAll_append]
      refine .foldlM_append (yields_part hp d hnone) (ih hr fun other hother => ?_)
      have hne : other ≠ part := by
        rintro rfl
        exact hpart hother
      rw [again, Part.get_set_of_ne hne]
      exact hrest other hother

/-- A document that is written for a refusal is read as what it was
written for. -/
theorem ofXml_written (d : ErrorDocument) : ofXml d.written = .ok d.normalized := by
  have hfields : Yields (Element.fold
      ⟨⟨"Error", []⟩, Node.normalizedAll
        (Part.all.flatMap fun part => optionalElement part.name (d.textOf part)), .closed⟩
      (fun f _ => pure f) (Fields.child ⟨"Error", []⟩) {}) (Part.all.foldl d.again {}) := by
    refine Element.yields_fold rfl (yields_foldAttributes_bare rfl _ _)
      (yields_parts (isNil_bare _) d (by decide) fun part _ => ?_)
    cases part <;> rfl
  have hjoin (text : Option String) : ((text.map normalizedText).map some).getD none
      = text.map normalizedText := by
    cases text <;> rfl
  have helement : Yields (ofElement ⟨⟨"Error", []⟩, Node.normalizedAll
      (Part.all.flatMap fun part => optionalElement part.name (d.textOf part)), .closed⟩)
      d.normalized := by
    unfold normalized
    rw [← hjoin d.resource, ← hjoin d.requestId, ← hjoin d.hostId]
    exact hfields.bind ((Yields.required _ _).bind ((Yields.required _ _).bind (.pure _)))
  have hroot := run_root_text d.isWritten_node "ErrorResponse"
  unfold ofXml Reading.result StateT.run'
  show Prod.fst <$> (root "ErrorResponse" d.node.text >>= ofElement).run [] = _
  rw [StateT.run_bind, node, hroot]
  show Prod.fst <$> (ofElement _).run _ = _
  rw [helement]
  rfl

end BucketAcl.ErrorDocument
