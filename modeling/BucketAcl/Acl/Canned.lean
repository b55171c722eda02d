/-
Canned access control lists: the seven labels, and which of them the
grants of a policy were most likely made with.
-/
import BucketAcl.Acl.Policy

namespace BucketAcl

/-- A predefined access control list. -/
inductive CannedAcl where
  | ownerOnly
  | publicRead
  | publicReadWrite
  | authenticatedRead
  | awsExecRead
  | bucketOwnerRead
  | bucketOwnerFullControl
  deriving DecidableEq

namespace CannedAcl

/-- Every label, in the order in which they are listed. -/
def all : List CannedAcl :=
  [ownerOnly, publicRead, publicReadWrite, authenticatedRead, awsExecRead, bucketOwnerRead,
    bucketOwnerFullControl]

/-- The text of the label. -/
def label : CannedAcl → String
  | ownerOnly => "private"
  | publicRead => "public-read"
  | publicReadWrite => "public-read-write"
  | authenticatedRead => "authenticated-read"
  | awsExecRead => "aws-exec-read"
  | bucketOwnerRead => "bucket-owner-read"
  | bucketOwnerFullControl => "bucket-owner-full-control"

/-- The canned list of a label. -/
def ofLabel? (s : String) : Option CannedAcl := all.find? fun a => a.label == s

/-- The canned list of a label, exactly as written. -/
def parse (s : String) : Except MalformedAcl CannedAcl :=
  match ofLabel? s with
  | some a => .ok a
  | none => .error (.cannedAcl s)

theorem ofLabel?_label (a : CannedAcl) : ofLabel? a.label = some a := by
  cases a <;> decide

end CannedAcl

-- ========================================================= inference

/-- The label that a read grant beside one other grant speaks for: to
everyone who signs, to everyone, or to the owner. -/
def Grant.readLabel? (owner : Owner) (g : Grant) : Option CannedAcl :=
  if g.permission ≠ .read then none
  else if g.grantee.isGroup authenticatedUsersUri then some .authenticatedRead
  else if g.grantee.isGroup allUsersUri then some .publicRead
  else if g.grantee.idOrEmpty = owner.id then some .bucketOwnerRead
  else none

/-- The canned list that the grants were most likely made with. A
single grant of full control to no group is private, of two grants the
first that speaks for a label decides, and of three one must let
everyone write. -/
def Policy.canned? (p : Policy) : Option CannedAcl :=
  match p.grants with
  | [g] =>
    if g.grantee.hasNoUri && g.permission = .fullControl then some .ownerOnly else none
  | [_, _] => p.grants.findSome? (Grant.readLabel? p.owner)
  | [_, _, _] =>
    if p.grants.any fun g => g.grantee.isGroup allUsersUri && g.permission = .write then
      some .publicReadWrite
    else none
  | _ => none

end BucketAcl
