/-
Locations: what a command is about, written as host, bucket and key with
slashes between them. The host ends at the first slash and the bucket at
the second; all behind that is the key, slash for slash.
-/
import BucketAcl.Text.Blank

namespace BucketAcl.CommandLine

/-- A host, a bucket, and the path behind it if there is a second
slash. -/
structure Location where
  host : String
  bucket : String
  path : Option String
  deriving DecidableEq

/-- Why a text is no location. -/
inductive LocationFault where
  | bucketMissing
  | leadingSlash
  deriving DecidableEq

/-- The wording of the fault. -/
def LocationFault.message : LocationFault → String
  | bucketMissing => "No \"bucket\" found, try: <s3 provider>/<bucket name>/path"
  | leadingSlash => "Please remove leading slashes from path."

namespace Location

/-- The location of a text. -/
def parse (s : String) : Except LocationFault Location :=
  match Text.cutAt '/' s.toList with
  | none => .error .bucketMissing
  | some (host, r) =>
    match Text.cutAt '/' r with
    | none => .ok ⟨.ofList host, .ofList r, none⟩
    | some (bucket, path) =>
      if path.head? = some '/' then .error .leadingSlash
      else .ok ⟨.ofList host, .ofList bucket, some (.ofList path)⟩

/-- The parts of a location, the path cut at its slashes too. -/
def parts (l : Location) : List String :=
  l.host :: l.bucket
    :: (l.path.map fun path => (path.toList.splitOn '/').map String.ofList).getD []

/-- The text of a location. -/
def text (l : Location) : String :=
  l.host ++ "/" ++ l.bucket ++ (l.path.map ("/" ++ ·)).getD ""

/-- The bucket, which has to have a name. -/
def requireBucket (l : Location) : Except LocationFault String :=
  if l.bucket = "" then .error .bucketMissing else .ok l.bucket

/-- The key of an object; without one the location is that of the
bucket. -/
def key? (l : Location) : Option String := l.path.filter (· ≠ "")

end Location

end BucketAcl.CommandLine
