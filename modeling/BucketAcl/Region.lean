/-
Regions: the ones that are known by name, each with an endpoint of its
own, and custom endpoints.
-/
import BucketAcl.Environment
import BucketAcl.Text.Blank

namespace BucketAcl

/-- The names of the known regions, ascending. -/
def knownRegionNames : List String :=
  ["af-south-1", "ap-east-1", "ap-northeast-1", "ap-northeast-2", "ap-northeast-3",
    "ap-south-1", "ap-south-2", "ap-southeast-1", "ap-southeast-2", "ap-southeast-3",
    "ap-southeast-4", "ca-central-1", "cn-north-1", "cn-northwest-1", "eu-central-1",
    "eu-central-2", "eu-north-1", "eu-south-1", "eu-south-2", "eu-west-1", "eu-west-2",
    "eu-west-3", "il-central-1", "me-central-1", "me-south-1", "sa-east-1", "us-east-1",
    "us-east-2", "us-gov-east-1", "us-gov-west-1", "us-west-1", "us-west-2"]

/-- Where requests are sent. -/
inductive Region where
  | known (name : String) (isKnown : name ∈ knownRegionNames)
  | custom (name endpoint : String)
  deriving DecidableEq

/-- A text that names no known region. -/
structure UnknownRegion where
  text : String
  deriving DecidableEq

/-- The wording of the error. -/
def UnknownRegion.message (e : UnknownRegion) : String := "Not a valid AWS region: " ++ e.text

namespace Region

/-- The name, which a custom endpoint may lack. -/
def name : Region → String
  | known n _ => n
  | custom n _ => n

/-- The endpoint: of a known region the host of its service, of a custom
one the text as configured. -/
def endpoint : Region → String
  | known n _ => "s3." ++ n ++ ".amazonaws.com"
  | custom _ e => e

/-- Whether the endpoint is a custom one. -/
def isCustom : Region → Bool
  | known _ _ => false
  | custom _ _ => true

/-- The known region of a name, if there is one. -/
def ofName? (s : String) : Option Region :=
  if h : s ∈ knownRegionNames then some (known s h) else none

/-- The known region of a name in either case, with white space around
it. -/
def parse (s : String) : Except UnknownRegion Region :=
  match ofName? (.ofList ((Text.trim s.toList).map Char.toLower)) with
  | some r => .ok r
  | none => .error ⟨s⟩

/-- The region where nothing else is said. -/
def usEast1 : Region := known "us-east-1" (by decide)

/-- The region that the environment names: by its first variable, or by
the second where the first is not set. A name that is not known counts
as none. -/
def ofEnvironment (env : Environment) : Region :=
  match env.get? "AWS_DEFAULT_REGION" <|> env.get? "AWS_REGION" with
  | none => usEast1
  | some s =>
    match parse s with
    | .ok r => r
    | .error _ => usEast1

end Region

end BucketAcl
