/-
Calls: actions carried out over a network. Each sends one request, or
none where there is nothing to ask of or a header cannot be sent; the
information on an object takes two. The clock is read for each request,
so that a call is given as many times as it has requests.
-/
import BucketAcl.Action
import BucketAcl.ObjectInfo
import BucketAcl.Reply.Refusal

namespace BucketAcl

/-- Why a call failed. -/
inductive CallFault where
  | handle (fault : HandleFault)
  | unsendableHeader
  | unanswered (url : Url)
  | refused (refusal : Refusal)
  | document (fault : Xml.DocumentFault)

/-- The wording of the fault, without what caused it. -/
def CallFault.message : CallFault → String
  | handle f => f.message
  | unsendableHeader => "failed to parse header value"
  | unanswered u => "error sending request for url (" ++ u.text ++ ")"
  | refused r => r.text
  | document f => f.message

/-- A call: it uses up replies of the network, and adds to what was
sent. -/
abbrev Call (α : Type) : Type := ExceptT CallFault (StateM Http.Network) α

namespace Call

/-- A call that sends nothing. -/
def ofHandle {α : Type} : Except HandleFault α → Call α
  | .ok a => pure a
  | .error f => throw (.handle f)

/-- What a document holds that a call gave. -/
def ofDocument {α : Type} : Except Xml.DocumentFault α → Call α
  | .ok a => pure a
  | .error f => throw (.document f)

/-- Sends a request whose headers can all be sent. -/
def send (request : Http.Request) : Call Http.Reply := do
  if !request.isSendable then throw .unsendableHeader
  let (reply, network) := (← get).send request
  set network
  match reply with
  | some r => pure r
  | none => throw (.unanswered request.url)

end Call

/-- Carries an action out: a reply that grants it is the result. -/
def Action.perform (a : Action) (h : Handle) (now : Time.Instant) : Call Http.Reply := do
  let bucket ← Call.ofHandle h.requireBucket
  let reply ← Call.send (← Call.ofHandle (a.request h now))
  if reply.status.isSuccess then return reply
  else throw (.refused (.ofReply reply bucket a.key?))

namespace Handle

variable (h : Handle) (now : Time.Instant)

/-- The document of an action that gets one, as it was sent. -/
def getText (a : Action) : Call String := do
  return (← a.perform h now).text

/-- The policy of an action that gets one. -/
def getPolicy (a : Action) : Call Policy := do
  Call.ofDocument (Policy.ofXml (← h.getText now a))

/-- The headers of an object. -/
def headObject (key : String) (versionId : Option String) : Call (Index (List String)) := do
  return (← (Action.headObject key versionId).perform h now).headerMap

/-- Carries out an action that puts something. -/
def put (a : Action) : Call Unit := do
  let _ ← a.perform h now

-- ============================================================ getting

/-- The document of an object, as it was sent. -/
def getObjectAclText (key : String) : Call String := h.getText now (.getObjectAcl key none)

/-- The document of the bucket, as it was sent. -/
def getBucketAclText : Call String := h.getText now .getBucketAcl

/-- The policy of the bucket. -/
def getBucketAcl : Call Policy := h.getPolicy now .getBucketAcl

/-- What is known about an object. The policy is asked for first, so
that nothing is half known if that fails; the headers are asked for
later, or at the same time where the clock stands still. -/
def getObjectAcl (key : String) (later : Time.Instant := now) : Call ObjectInfo := do
  let policy ← h.getPolicy now (.getObjectAcl key none)
  let headers ← h.headObject later key none
  return (ObjectInfo.ofHeaders key headers).merge policy

-- ============================================================ putting

/-- Puts access control on the bucket. -/
def putBucketAcl (acl : AclBody) : Call Unit := h.put now (.putBucketAcl acl)

/-- Puts access control on an object. -/
def putObjectAcl (key : String) (acl : AclBody) : Call Unit :=
  h.put now (.putObjectAcl key acl none)

end Handle

end BucketAcl
