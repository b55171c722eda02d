/-
Who receives a permission: a grantee is named by an id, a group URI or
an e-mail address, and says of which of three kinds it is. A document
may fill in the names in any combination, so each is optional.
-/
import BucketAcl.Acl.Permission

namespace BucketAcl

/-- The namespace that the type attribute of a grantee belongs to. -/
def xsiNamespace : String := "http://www.w3.org/2001/XMLSchema-instance"

/-- The group of everyone, anonymous requests included. -/
def allUsersUri : String := "http://acs.amazonaws.com/groups/global/AllUsers"

/-- The group of everyone who signs. -/
def authenticatedUsersUri : String :=
  "http://acs.amazonaws.com/groups/global/AuthenticatedUsers"

/-- The kinds of grantee. -/
inductive GranteeType where
  | canonicalUser
  | amazonCustomerByEmail
  | group
  deriving DecidableEq

namespace GranteeType

/-- Every kind of grantee. -/
def all : List GranteeType := [canonicalUser, amazonCustomerByEmail, group]

/-- The name in a document. -/
def name : GranteeType → String
  | canonicalUser => "CanonicalUser"
  | amazonCustomerByEmail => "AmazonCustomerByEmail"
  | group => "Group"

/-- The kind of a name. -/
def ofName? (s : String) : Option GranteeType := all.find? fun t => t.name == s

/-- The kind of a name, exactly as written in a document. -/
def parse (s : String) : Except MalformedAcl GranteeType :=
  match ofName? s with
  | some t => .ok t
  | none => .error (.granteeType s)

theorem ofName?_name (t : GranteeType) : ofName? t.name = some t := by
  cases t <;> decide

end GranteeType

/-- The principal that receives a permission. `schemaInstance` is the
namespace that the document binds for the type attribute. -/
structure Grantee where
  schemaInstance : String := xsiNamespace
  type : GranteeType := .canonicalUser
  id : Option String := none
  displayName : Option String := none
  uri : Option String := none
  emailAddress : Option String := none
  deriving DecidableEq

namespace Grantee

/-- A user named by id. -/
def ofUser (id : String) (displayName : Option String) : Grantee :=
  { type := .canonicalUser, id := some id, displayName }

/-- A group named by URI. -/
def ofGroup (uri : String) : Grantee := { type := .group, uri := some uri }

/-- A customer named by e-mail address. -/
def ofEmail (address : String) : Grantee :=
  { type := .amazonCustomerByEmail, emailAddress := some address }

/-- There is no URI, or an empty one. -/
def hasNoUri (g : Grantee) : Bool := g.uri.all (· == "")

/-- The grantee is the group of this URI. -/
def isGroup (g : Grantee) (uri : String) : Bool := g.uri == some uri

/-- The id, empty if there is none. -/
def idOrEmpty (g : Grantee) : String := g.id.getD ""

end Grantee

end BucketAcl
