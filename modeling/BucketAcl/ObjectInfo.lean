/-
What is known about an object: the fields that its headers give, and,
once its policy is merged in, its owner and grants. The metadata keeps
all headers by name, and shows the policy as the headers that it could
have been set with.
-/
import BucketAcl.Acl.Canned
import BucketAcl.Time.Mail

namespace BucketAcl

/-- What is known about an object. -/
structure ObjectInfo where
  key : String
  size : Option Nat
  etag : Option String
  lastModified : Option Time.Instant
  contentType : Option String
  versionId : Option String
  owner : Owner
  grants : List Grant
  metadata : Index (List String)

namespace ObjectInfo

-- ======================================================= from headers

/-- The number of bytes that a text gives: digits, perhaps after a plus,
below 2^64. -/
def parseSize? (s : String) : Option Nat :=
  let digits :=
    match s.toList with
    | '+' :: r => r
    | cs => cs
  if digits ≠ [] ∧ digits.all Char.isDigit ∧ Time.Mail.value digits < 0x10000000000000000 then
    some (Time.Mail.value digits)
  else none

/-- A header value without the quotes at its ends. -/
def unquoted (s : String) : String := .ofList (Text.trimWhile (· == '"') s.toList)

/-- A name in lower case. -/
def lowerName (name : String) : String := .ofList (name.toList.map Char.toLower)

/-- What the headers of an object say; of a header with several values
the first counts. -/
def ofHeaders (key : String) (headers : Index (List String)) : ObjectInfo :=
  let first (name : String) : Option String := (headers.get? name).bind List.head?
  { key
    size := (first "content-length").bind parseSize?
    etag := (first "etag").map unquoted
    lastModified := (first "last-modified").bind Time.Mail.parse?
    contentType := (first "content-type").map unquoted
    versionId := (first "x-amz-version-id").map unquoted
    owner := {}
    grants := []
    metadata := .ofList (headers.entries.map fun (name, values) => (lowerName name, values)) }

-- =========================================================== metadata

/-- Adds a value to an entry of the metadata. -/
def addMetadata (info : ObjectInfo) (name value : String) : ObjectInfo :=
  { info with
    metadata := info.metadata.alter (lowerName name) fun former => former.getD [] ++ [value] }

/-- Replaces an entry of the metadata. -/
def setMetadata (info : ObjectInfo) (name : String) (values : List String) : ObjectInfo :=
  { info with metadata := info.metadata.insert (lowerName name) values }

/-- The header that carries the label of a canned list. -/
def cannedHeader : String := "x-amz-acl"

/-- Shows a policy in the metadata: by the label of a canned list where
there is one, else by a header for each permission. -/
def showPolicy (info : ObjectInfo) (p : Policy) : ObjectInfo :=
  match p.canned? with
  | some label => info.addMetadata cannedHeader label.label
  | none => p.grantHeaders.entries.foldl (fun info e => info.setMetadata e.1 e.2) info

/-- Merges a policy in: its owner replaces the former one, its grants
come after the former ones. -/
def merge (info : ObjectInfo) (p : Policy) : ObjectInfo :=
  { info with owner := p.owner, grants := info.grants ++ p.grants }.showPolicy p

end ObjectInfo

end BucketAcl
