/-
Reports: a policy, and what is known about an object, in rows of a label
and a value. Both end in the same rows for the owner, the grants, and
the headers that the policy could have been set with.
-/
import BucketAcl.CommandLine.Palette
import BucketAcl.ObjectInfo

namespace BucketAcl.CommandLine

/-- A row of a report. -/
structure Row where
  label : String
  value : String
  deriving DecidableEq

namespace Row

/-- The row of a header and its values. -/
def ofHeader (name : String) (values : List String) : Row := ⟨name, ", ".intercalate values⟩

/-- The row of the owner. -/
def ofOwner (o : Owner) : Row := ⟨"Owner", o.id ++ " " ++ o.displayName.getD ""⟩

/-- The row of a grant: the permission, the first of id, group and
address that the grantee has, and the kind of grantee. -/
def ofGrant (p : Palette) (g : Grant) : Row :=
  let who := (g.grantee.id <|> g.grantee.uri <|> g.grantee.emailAddress).getD ""
  ⟨"Grant",
    p.paint .yellow g.permission.name ++ " " ++ who ++ " (" ++ g.grantee.type.name ++ ")"⟩

/-- The rows of an owner and of the grants. -/
def ofAccess (p : Palette) (owner : Owner) (grants : List Grant) : List Row :=
  ofOwner owner :: grants.map (ofGrant p)

/-- The row as a line: the label stands to the right of its column. -/
def text (p : Palette) (r : Row) : String := p.paint .green r.label 14 ++ ": " ++ r.value ++ "\n"

end Row

/-- The headers of a policy: its label, or else who is granted what. -/
def policyHeaders (policy : Policy) : List Row :=
  match policy.canned? with
  | some acl => [⟨ObjectInfo.cannedHeader, acl.label⟩]
  | none => policy.grantHeaders.entries.map fun (name, values) => .ofHeader name values

/-- The rows of a policy. -/
def policyRows (p : Palette) (policy : Policy) : List Row :=
  Row.ofAccess p policy.owner policy.grants ++ policyHeaders policy

/-- Headers that say who may do what. -/
def isAccessHeader (name : String) : Bool :=
  name == ObjectInfo.cannedHeader || "x-amz-grant-".toList.isPrefixOf name.toList

/-- The rows of an object before those on access. -/
def objectRows (info : ObjectInfo) : List Row :=
  let optional (label : String) (value : Option String) : List Row :=
    value.toList.map fun v => ⟨label, v⟩
  ⟨"Key", info.key⟩
    :: optional "Size" (info.size.map toString)
    ++ optional "ETag" info.etag
    ++ optional "Last-Modified" (info.lastModified.map Time.Mail.text)
    ++ optional "Version ID" info.versionId

/-- The rows of an object on access. -/
def accessRows (p : Palette) (info : ObjectInfo) : List Row :=
  Row.ofAccess p info.owner info.grants
    ++ (info.metadata.entries.filter fun e => isAccessHeader e.1).map fun (name, values) =>
      .ofHeader name values

/-- The lines of a report. -/
def report (p : Palette) (rows : List Row) : String := String.join (rows.map (·.text p))

/-- The report on a policy. -/
def policyReport (p : Palette) (policy : Policy) : String := report p (policyRows p policy)

/-- The report on an object. -/
def objectReport (p : Palette) (info : ObjectInfo) : String :=
  report p (objectRows info ++ accessRows p info)

end BucketAcl.CommandLine
