/-
Reading values out of the content of a document, from left to right.
An element is visited attribute by attribute and node by node, and the
fault of a document is the first that this order meets: a fault in the
markup counts only once the reading comes to it.
-/
import BucketAcl.Acl.Grantee
import BucketAcl.Text.Quoted
import BucketAcl.Xml.Content

namespace BucketAcl.Xml

/-- Why a document does not say what is expected of it. -/
inductive DocumentFault where
  | markup (fault : Fault)
  | unexpectedStart (name : String)
  | unexpectedEnd
  | unexpectedText (text expected : String)
  | missingField (name : String)
  | duplicateField (name : String)
  | malformedAcl (fault : MalformedAcl)
  deriving DecidableEq

/-- The wording of the fault. -/
def DocumentFault.message : DocumentFault → String
  | markup f => f.message
  | unexpectedStart n => "unexpected `Event::Start(" ++ quotedBytes n ++ ")`"
  | unexpectedEnd => "unexpected `Event::Eof`"
  | unexpectedText t e =>
    "invalid type: string " ++ Text.quoted t ++ ", expected struct " ++ e
  | missingField n => "missing field `" ++ n ++ "`"
  | duplicateField n => "duplicate field `" ++ n ++ "`"
  | malformedAcl f => f.message

/-- A reading of a document. It may find a fault, and it knows the tags
whose bindings are in scope where it is. -/
abbrev Reading (α : Type) : Type := StateT Scope (Except DocumentFault) α

variable {α σ : Type}

namespace Reading

/-- The reading that finds a fault. -/
def fault (f : DocumentFault) : Reading α := throw f

/-- A reading of markup. -/
def ofMarkup : Except Fault α → Reading α
  | .ok a => pure a
  | .error f => fault (.markup f)

/-- What a reading gives that begins outside all elements. -/
def result (r : Reading α) : Except DocumentFault α := StateT.run' r []

/-- A tag is entered: its bindings come into scope. -/
def enter (tag : Tag) : Reading Unit := modify (tag :: ·)

/-- The end of an element is read: the innermost tag leaves the scope. -/
def leave : Reading Unit := modify List.tail

end Reading

open Reading

/-- Fills a field that may be filled once. -/
def once (name : String) (former : Option α) (value : Reading α) : Reading (Option α) :=
  if former.isSome then fault (.duplicateField name) else some <$> value

/-- The value of a field that must be filled. -/
def required (name : String) (value : Option α) : Reading α :=
  match value with
  | some a => pure a
  | none => fault (.missingField name)

-- =========================================================== elements

/-- An element that is being read. -/
structure Element where
  tag : Tag
  inside : List Node
  ending : Ending

/-- The end of an element of some name: it has to be there. -/
def Ending.check (ending : Ending) (name : String) : Reading Unit :=
  match ending with
  | .closed => pure ()
  | .cut f => fault (.markup (f.getD (.missingEnd name)))

/-- Visits a node: the text of a run, or an element. -/
def Node.visit (onText : σ → List Char → Reading σ) (onChild : σ → Element → Reading σ)
    (s : σ) : Node → Reading σ
  | run pieces => do onText s (← ofMarkup (resolveRun pieces))
  | doctype => pure s
  | element tag inside ending => do
    ofMarkup tag.checkBindings
    enter tag
    let s ← onChild s ⟨tag, inside, ending⟩
    leave
    return s

namespace Element

/-- The name without its prefix: the field that the element fills. -/
def field (e : Element) : String := localName e.tag.name

/-- Visits the attributes. -/
def foldAttributes (e : Element) (f : σ → Attribute → Reading σ) (s : σ) : Reading σ :=
  e.tag.attributes.foldlM (fun s a =>
    match a with
    | .ok a => f s a
    | .error x => fault (.markup (.inAttribute x))) s

/-- Visits the nodes, and then the end. -/
def foldInside (e : Element) (onText : σ → List Char → Reading σ)
    (onChild : σ → Element → Reading σ) (s : σ) : Reading σ := do
  let s ← e.inside.foldlM (Node.visit onText onChild) s
  e.ending.check e.tag.name
  return s

/-- Visits attributes and child elements; text between them does not
count. -/
def fold (e : Element) (onAttribute : σ → Attribute → Reading σ)
    (onChild : σ → Element → Reading σ) (s : σ) : Reading σ := do
  e.foldInside (fun s _ => pure s) onChild (← e.foldAttributes onAttribute s)

/-- The text of an element that holds nothing else. -/
def text (e : Element) : Reading String := do
  let cs ← e.foldInside (fun s t => pure (s ++ t))
    (fun _ child => fault (.unexpectedStart child.tag.name)) []
  return .ofList cs

-- ======================================================= passing over

/-- The tag that nodes begin with, if they begin with an element. -/
def firstTag? : List Node → Option Tag
  | .element tag _ _ :: _ => some tag
  | _ => none

/-- Passes over what is left of an element. The tag right behind what
is read has to be readable; of the rest only the end of the element
counts. A tag whose name is not the element's is entered, and its own
end is passed over: one scope more stays open. -/
def passOver (e : Element) (nodes : List Node) : Reading Unit := do
  match firstTag? nodes with
  | some tag =>
    ofMarkup tag.checkBindings
    e.ending.check e.tag.name
    if tag.name ≠ e.tag.name then enter tag
  | none => e.ending.check e.tag.name

/-- Passes over the nodes of an element; the first of them has to be
readable. -/
def skipNodes (e : Element) : List Node → Reading Unit
  | .doctype :: r => skipNodes e r
  | .run pieces :: r => do
    let _ ← ofMarkup (resolveRun pieces)
    e.passOver r
  | .element tag inside ending :: r => do
    ofMarkup tag.checkBindings
    enter tag
    passOver ⟨tag, inside, ending⟩ inside
    leave
    e.passOver r
  | [] => e.ending.check e.tag.name

/-- Passes over an element. -/
def skip (e : Element) : Reading Unit := e.skipNodes e.inside

/-- The element or the one around it is declared to be nil. What the
first tag inside binds is in scope already. -/
def isNil (e : Element) (parent : Tag) : Reading Bool := do
  let scope := (firstTag? e.inside).toList ++ (← get)
  return parent.isNil scope xsiNamespace || e.tag.isNil scope xsiNamespace

/-- The text of an element, or nothing where it is declared to be nil. -/
def optionalText (e : Element) (parent : Tag) : Reading (Option String) := do
  if ← e.isNil parent then
    e.skip
    return none
  else return some (← e.text)

end Element

/-- The value of an attribute. -/
def Attribute.text (a : Attribute) : Reading String := do
  return .ofList (← ofMarkup (unescape a.value))

-- =============================================================== root

/-- The first element of nodes outside all elements; before it only
white space may stand. What follows it is not read. -/
def rootOf (expected : String) (end? : Option Fault) : List Node → Reading Element
  | [] =>
    match end? with
    | some f => fault (.markup f)
    | none => fault .unexpectedEnd
  | .doctype :: r => rootOf expected end? r
  | .run pieces :: r => do
    let t ← ofMarkup (resolveRun pieces)
    if t.all isSpace then rootOf expected end? r
    else fault (.unexpectedText (.ofList t) expected)
  | .element tag inside ending :: _ => do
    ofMarkup tag.checkBindings
    enter tag
    return ⟨tag, inside, ending⟩

/-- The root element of a text that is expected to hold some structure. -/
def root (expected : String) (text : String) : Reading Element :=
  let content := Content.parse text.toList
  rootOf expected content.fault content.nodes

end BucketAcl.Xml
