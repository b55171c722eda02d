/-
The document that a policy is kept and sent as. Reading goes by the
local names of elements and attributes, in any order and with elements
of other names passed over; a field may not occur twice, and the grants
of a list must stand together. Writing has one fixed form.
-/
import BucketAcl.Acl.Policy
import BucketAcl.Xml.Element
import BucketAcl.Xml.Writer

namespace BucketAcl.Document

open Xml

/-- The value of a text that has a fixed set of values. -/
def ofAclText {α : Type} : Except MalformedAcl α → Reading α
  | .ok a => pure a
  | .error f => Reading.fault (.malformedAcl f)

-- ============================================================== owner

/-- What is read of an owner so far. -/
structure OwnerFields where
  id : Option String := none
  displayName : Option (Option String) := none

/-- Reads a child of an owner. -/
def OwnerFields.child (parent : Tag) (f : OwnerFields) (e : Element) : Reading OwnerFields :=
  match e.field with
  | "ID" => do return { f with id := ← once "ID" f.id e.text }
  | "DisplayName" => do
    return { f with displayName := ← once "DisplayName" f.displayName (e.optionalText parent) }
  | _ => do
    e.skip
    return f

/-- Reads an owner. -/
def readOwner (e : Element) : Reading Owner := do
  let f ← e.fold (fun f _ => pure f) (OwnerFields.child e.tag) {}
  return { id := f.id.getD "", displayName := f.displayName.getD none }

-- ============================================================ grantee

/-- What is read of a grantee so far. -/
structure GranteeFields where
  schemaInstance : Option String := none
  type : Option GranteeType := none
  id : Option (Option String) := none
  displayName : Option (Option String) := none
  uri : Option (Option String) := none
  emailAddress : Option (Option String) := none

namespace GranteeFields

/-- Fills a field that is written as an attribute. -/
def put (f : GranteeFields) (field : String) (text : Reading String) :
    Option (Reading GranteeFields) :=
  match field with
  | "@xmlns:xsi" => some do
    return { f with schemaInstance := ← once "@xmlns:xsi" f.schemaInstance text }
  | "@type" | "@xsi:type" => some do
    let type : Reading GranteeType := do ofAclText (GranteeType.parse (← text))
    return { f with type := ← once "@type" f.type type }
  | _ => none

/-- Reads an attribute of a grantee. -/
def ofAttribute (f : GranteeFields) (a : Attribute) : Reading GranteeFields :=
  (f.put a.field a.text).getD (pure f)

/-- Reads a child of a grantee. -/
def child (parent : Tag) (f : GranteeFields) (e : Element) : Reading GranteeFields :=
  match e.field with
  | "ID" => do return { f with id := ← once "ID" f.id (e.optionalText parent) }
  | "DisplayName" => do
    return { f with displayName := ← once "DisplayName" f.displayName (e.optionalText parent) }
  | "URI" => do return { f with uri := ← once "URI" f.uri (e.optionalText parent) }
  | "EmailAddress" => do
    return { f with emailAddress := ← once "EmailAddress" f.emailAddress (e.optionalText parent) }
  | field =>
    match f.put field e.text with
    | some r => r
    | none => do
      e.skip
      return f

end GranteeFields

/-- Reads a grantee. -/
def readGrantee (e : Element) : Reading Grantee := do
  let f ← e.fold GranteeFields.ofAttribute (GranteeFields.child e.tag) {}
  return {
    schemaInstance := f.schemaInstance.getD xsiNamespace
    type := f.type.getD .canonicalUser
    id := f.id.getD none
    displayName := f.displayName.getD none
    uri := f.uri.getD none
    emailAddress := f.emailAddress.getD none }

-- ============================================================= grants

/-- What is read of a grant so far. -/
structure GrantFields where
  grantee : Option Grantee := none
  permission : Option Permission := none

/-- Reads a child of a grant. -/
def GrantFields.child (f : GrantFields) (e : Element) : Reading GrantFields :=
  match e.field with
  | "Grantee" => do return { f with grantee := ← once "Grantee" f.grantee (readGrantee e) }
  | "Permission" => do
    let permission : Reading Permission := do ofAclText (Permission.parse (← e.text))
    return { f with permission := ← once "Permission" f.permission permission }
  | _ => do
    e.skip
    return f

/-- Reads a grant. -/
def readGrant (e : Element) : Reading Grant := do
  let f ← e.fold (fun f _ => pure f) GrantFields.child {}
  let grantee ← required "Grantee" f.grantee
  let permission ← required "Permission" f.permission
  return { grantee, permission }

/-- How far the grants of a list are read: not begun, going on with
elements of one name, or ended by another element or by text. -/
inductive GrantRun where
  | before
  | going (name : String) (grants : List Grant)
  | after (grants : List Grant)

namespace GrantRun

/-- The grants that are read. -/
def grants : GrantRun → List Grant
  | before => []
  | going _ gs => gs
  | after gs => gs

/-- Passes over text in a list; more than white space ends the grants. -/
def text (run : GrantRun) (t : List Char) : GrantRun :=
  match run with
  | going _ gs => if t.all isSpace then run else after gs
  | _ => run

/-- Reads an element that does not go on with the grants. -/
def other (run : GrantRun) (e : Element) : Reading GrantRun :=
  if e.field = "Grant" then
    match run with
    | before => do return going e.tag.name [← readGrant e]
    | _ => Reading.fault (.duplicateField "Grant")
  else do
    e.skip
    return run

/-- Reads a child of a list. -/
def child (run : GrantRun) (e : Element) : Reading GrantRun :=
  match run with
  | going name gs =>
    if e.tag.name = name then do return going name (gs ++ [← readGrant e])
    else (after gs).other e
  | _ => run.other e

end GrantRun

/-- Reads a list of grants. -/
def readGrants (e : Element) : Reading (List Grant) := do
  e.foldAttributes (fun _ _ => pure ()) ()
  let run ← e.foldInside (fun run t => pure (GrantRun.text run t)) GrantRun.child .before
  return run.grants

-- ============================================================= policy

/-- What is read of a policy so far. -/
structure PolicyFields where
  owner : Option Owner := none
  grants : Option (List Grant) := none

/-- Reads a child of a policy. -/
def PolicyFields.child (f : PolicyFields) (e : Element) : Reading PolicyFields :=
  match e.field with
  | "Owner" => do return { f with owner := ← once "Owner" f.owner (readOwner e) }
  | "AccessControlList" => do
    return { f with grants := ← once "AccessControlList" f.grants (readGrants e) }
  | _ => do
    e.skip
    return f

/-- Reads a policy. -/
def readPolicy (e : Element) : Reading Policy := do
  let f ← e.fold (fun f _ => pure f) PolicyFields.child {}
  return { owner := f.owner.getD {}, grants := f.grants.getD [] }

-- ============================================================ writing

/-- The element of an optional text, if there is one. -/
def optionalElement (name : String) (text : Option String) : List Node :=
  (text.map (textElement name)).toList

/-- The element of an owner. -/
def ownerNode (o : Owner) : Node :=
  .element ⟨"Owner", []⟩
    (textElement "ID" o.id :: optionalElement "DisplayName" o.displayName) .closed

/-- The element of a grantee. -/
def granteeNode (g : Grantee) : Node :=
  .element
    ⟨"Grantee",
      writeAttribute "xmlns:xsi" g.schemaInstance ++ writeAttribute "xsi:type" g.type.name⟩
    (optionalElement "ID" g.id ++ optionalElement "DisplayName" g.displayName
      ++ optionalElement "URI" g.uri ++ optionalElement "EmailAddress" g.emailAddress) .closed

/-- The element of a grant. -/
def grantNode (g : Grant) : Node :=
  .element ⟨"Grant", []⟩
    [granteeNode g.grantee, textElement "Permission" g.permission.name] .closed

/-- The element of a policy. -/
def policyNode (p : Policy) : Node :=
  .element ⟨"AccessControlPolicy", []⟩
    [ownerNode p.owner, .element ⟨"AccessControlList", []⟩ (p.grants.map grantNode) .closed]
    .closed

end BucketAcl.Document

namespace BucketAcl.Policy

/-- The policy that a document holds. The name of its root element does
not matter. -/
def ofXml (xml : String) : Except Xml.DocumentFault Policy :=
  Xml.Reading.result do Document.readPolicy (← Xml.root "AccessControlPolicy" xml)

/-- The document of a policy. -/
def toXml (p : Policy) : String := (Document.policyNode p).text

end BucketAcl.Policy
