/-
The access control policy of a bucket or an object: who owns it, and
the grants in the order of the document.
-/
import BucketAcl.Acl.Grant
import BucketAcl.Index

namespace BucketAcl

/-- The owner of a bucket or an object. -/
structure Owner where
  id : String := ""
  displayName : Option String := none
  deriving DecidableEq

/-- An owner and the grants, in order. -/
structure Policy where
  owner : Owner := {}
  grants : List Grant := []
  deriving DecidableEq

namespace Policy

/-- Adds the grantee of a grant to the list of its permission. -/
def addGrantHeader (headers : Index (List String)) (g : Grant) : Index (List String) :=
  headers.alter g.permission.grantHeader fun ids =>
    ids.getD [] ++ ["id=" ++ g.grantee.idOrEmpty]

/-- For each permission that is granted, the `id=` of its grantees in
the order of the document, under the header of the permission. -/
def grantHeaders (p : Policy) : Index (List String) :=
  p.grants.foldl addGrantHeader .empty

end Policy

end BucketAcl
