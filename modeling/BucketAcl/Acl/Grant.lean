/-
Grants, and their one-line form `PERMISSION:kind=value`.
-/
import BucketAcl.Acl.Grantee
import BucketAcl.Text.Blank

namespace BucketAcl

/-- A permission and who receives it. -/
structure Grant where
  grantee : Grantee
  permission : Permission
  deriving DecidableEq

namespace Grant

/-- The grantee of `kind=value` with white space around it; the value
may not be empty. -/
def granteeOf? (cs : List Char) : Option Grantee := do
  let (kind, value) ← Text.cutAt '=' (Text.trim cs)
  guard (value ≠ [])
  match String.ofList kind with
  | "id" => some (.ofUser (.ofList value) none)
  | "uri" => some (.ofGroup (.ofList value))
  | "emailAddress" => some (.ofEmail (.ofList value))
  | _ => none

/-- The grant of its one-line form. The permission is cut off at the
first colon and may be in either case; a permission that is none is
reported before anything about the grantee. -/
def parse (s : String) : Except MalformedAcl Grant :=
  match Text.cutAt ':' s.toList with
  | none => .error (.grant s)
  | some (permission, grantee) => do
    let permission ←
      Permission.parse (.ofList ((Text.trim permission).map Char.toUpper))
    match granteeOf? grantee with
    | none => .error (.grant s)
    | some grantee => .ok ⟨grantee, permission⟩

end Grant

end BucketAcl
