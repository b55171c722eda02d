/-
The five actions on access control: what each asks for, and the signed
request that asks for it.
-/
import BucketAcl.Acl.Canned
import BucketAcl.Acl.Document
import BucketAcl.Digest.Md5
import BucketAcl.Http.Exchange
import BucketAcl.SigV4.Signature

namespace BucketAcl

/-- The access control that is put: a canned list, which goes into a
header, or a document, which is the body. -/
inductive AclBody where
  | canned (acl : CannedAcl)
  | xml (document : String)
  deriving DecidableEq

namespace AclBody

/-- The document of a policy. -/
def ofPolicy (p : Policy) : AclBody := xml p.toXml

/-- The text that length and digests are taken of, empty for a canned
list. -/
def body : AclBody → String
  | canned _ => ""
  | xml d => d

/-- The document that is sent as the body of the request, if there is
one. -/
def document? : AclBody → Option String
  | canned _ => none
  | xml d => some d

/-- The headers beside those of every request. -/
def headers : AclBody → Index String
  | canned a => Index.empty.insert "x-amz-acl" a.label
  | xml _ => .empty

end AclBody

/-- What is asked for. -/
inductive Action where
  | getBucketAcl
  | getObjectAcl (key : String) (versionId : Option String)
  | headObject (key : String) (versionId : Option String)
  | putBucketAcl (acl : AclBody)
  | putObjectAcl (key : String) (acl : AclBody) (versionId : Option String)
  deriving DecidableEq

namespace Action

/-- The method of the request. -/
def method : Action → Http.Method
  | getBucketAcl | getObjectAcl _ _ => .get
  | headObject _ _ => .head
  | putBucketAcl _ | putObjectAcl _ _ _ => .put

/-- The key of the object, if the action is about one. -/
def key? : Action → Option String
  | getBucketAcl | putBucketAcl _ => none
  | getObjectAcl k _ | headObject k _ | putObjectAcl k _ _ => some k

/-- The parts of a key between slashes; empty ones do not count. -/
def keyPath (key : String) : List String :=
  ((key.toList.splitOn '/').filter (· ≠ [])).map String.ofList

/-- The path below the bucket, if the action is about an object. -/
def path? (a : Action) : Option (List String) := a.key?.map keyPath

/-- The pairs that the action adds to the query. -/
def queryPairs? : Action → Option (List (String × String))
  | getBucketAcl | putBucketAcl _ => some [("acl", "")]
  | getObjectAcl _ v | putObjectAcl _ _ v =>
    some (("acl", "") :: (v.map fun v => ("versionId", v)).toList)
  | headObject _ v => v.map fun v => [("versionId", v)]

/-- The access control that the action puts. -/
def acl? : Action → Option AclBody
  | putBucketAcl acl | putObjectAcl _ acl _ => some acl
  | _ => none

/-- The headers that the action adds, if it may add any. -/
def headers? (a : Action) : Option (Index String) :=
  match a.acl? with
  | some (.canned c) => some (AclBody.canned c).headers
  | _ => none

/-- The URL of the action below the URL of its bucket. -/
def url (a : Action) (endpoint : Url) : Url :=
  let object := (a.path?.getD []).foldl Url.pushSegment endpoint
  (a.queryPairs?.getD []).foldl (fun u p => u.appendPair p.1 p.2) object

/-- The URL and the headers of the request, for a payload that is known
by its digests. -/
def sign (a : Action) (h : Handle) (now : Time.Instant) (payload : SigV4.Payload) :
    Except HandleFault (Url × Index String) := do
  let u := a.url (← h.endpoint)
  let signer : SigV4.Signer := { handle := h, now }
  return (u, signer.sign .empty a.method.name u payload (a.headers?.getD .empty))

/-- What is known of the body of the action before it is sent: of one
that puts something also its length and MD5 digest. -/
def payload (a : Action) : SigV4.Payload :=
  match a.acl? with
  | none => { digest := Digest.Sha256.hash [] }
  | some acl =>
    let bytes := Text.Utf8.bytes acl.body
    { digest := Digest.Sha256.hash bytes
      md5 := some (Digest.Md5.hash bytes)
      length := some bytes.length }

/-- The signed request of the action. -/
def request (a : Action) (h : Handle) (now : Time.Instant) : Except HandleFault Http.Request := do
  let (url, headers) ← a.sign h now a.payload
  return { method := a.method, url, headers, body := (a.acl?.bind AclBody.document?).getD "" }

end Action

end BucketAcl
