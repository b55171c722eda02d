/-
The document that a store sends with a reply that refuses a request: a
code and a message, and perhaps what it is about.
-/
import BucketAcl.Xml.Element

namespace BucketAcl

/-- What a store says about a refusal. -/
structure ErrorDocument where
  code : String
  message : String
  resource : Option String
  requestId : Option String
  hostId : Option String
  deriving DecidableEq

namespace ErrorDocument

open Xml

/-- What is read so far. -/
structure Fields where
  code : Option String := none
  message : Option String := none
  resource : Option (Option String) := none
  requestId : Option (Option String) := none
  hostId : Option (Option String) := none

/-- Reads a child. -/
def Fields.child (parent : Tag) (f : Fields) (e : Element) : Reading Fields :=
  match e.field with
  | "Code" => do return { f with code := ← once "Code" f.code e.text }
  | "Message" => do return { f with message := ← once "Message" f.message e.text }
  | "Resource" => do
    return { f with resource := ← once "Resource" f.resource (e.optionalText parent) }
  | "RequestId" => do
    return { f with requestId := ← once "RequestId" f.requestId (e.optionalText parent) }
  | "HostId" => do
    return { f with hostId := ← once "HostId" f.hostId (e.optionalText parent) }
  | _ => do
    e.skip
    return f

/-- Reads the root element, whatever its name. -/
def ofElement (e : Element) : Reading ErrorDocument := do
  let f ← e.fold (fun f _ => pure f) (Fields.child e.tag) {}
  let code ← required "Code" f.code
  let message ← required "Message" f.message
  return {
    code
    message
    resource := f.resource.getD none
    requestId := f.requestId.getD none
    hostId := f.hostId.getD none }

/-- The refusal that a document holds. -/
def ofXml (xml : String) : Except DocumentFault ErrorDocument :=
  Reading.result do ofElement (← root "ErrorResponse" xml)

end ErrorDocument

end BucketAcl
