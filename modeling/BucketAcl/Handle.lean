/-
A handle on a store: the key pair, the region, the bucket that requests
are about, and whether they are signed at all. The endpoint of a handle
is the URL of its bucket.
-/
import BucketAcl.Credentials
import BucketAcl.Region
import BucketAcl.Url.Parse

namespace BucketAcl

/-- What every request needs to know. -/
structure Handle where
  credentials : Credentials
  region : Region
  bucket : Option String
  isAnonymous : Bool
  deriving DecidableEq

/-- Why a handle cannot be used. -/
inductive HandleFault where
  | bucketMissing
  | invalidEndpoint (endpoint : String) (cause : Url.Fault)
  deriving DecidableEq

namespace HandleFault

/-- The wording of the fault, without its cause. -/
def message : HandleFault → String
  | bucketMissing => "bucket name missing, try: <s3 provider>/<bucket name>"
  | invalidEndpoint e _ => "invalid endpoint: " ++ e

/-- The wording of the fault and of its cause. -/
def messageWithCause : HandleFault → String
  | bucketMissing => bucketMissing.message
  | invalidEndpoint e c => (invalidEndpoint e c).message ++ ": " ++ c.message

end HandleFault

namespace Handle

/-- The text that is read as the URL of the service: an endpoint without
a scheme is one for `https`. -/
def serviceText (endpoint : String) : String :=
  if "http://".toList.isPrefixOf endpoint.toList
      || "https://".toList.isPrefixOf endpoint.toList then endpoint
  else "https://" ++ endpoint

/-- The URL of the service, as configured. -/
def service (h : Handle) : Except HandleFault Url :=
  match Url.parse (serviceText h.region.endpoint) with
  | .ok u => .ok u
  | .error f => .error (.invalidEndpoint h.region.endpoint f)

/-- The URL of a bucket at a service: its name is the segment after the
path of the service. -/
def bucketUrl (service : Url) : Option String → Url
  | none => service
  | some b => service.popEmptySegment.pushSegment b

/-- The URL of the bucket, or of the service where there is none. -/
def endpoint (h : Handle) : Except HandleFault Url := do
  return bucketUrl (← h.service) h.bucket

/-- The bucket, which every request on access control needs. -/
def requireBucket (h : Handle) : Except HandleFault String :=
  match h.bucket with
  | some b => .ok b
  | none => .error .bucketMissing

/-- The handle in five lines; the secret key is not among them. -/
def text (h : Handle) : String :=
  "access key: " ++ h.credentials.accessKey ++ "\nregion: " ++ h.region.name
    ++ "\nendpoint: " ++ h.region.endpoint ++ "\nbucket: " ++ h.bucket.getD ""
    ++ "\nno sign request: " ++ (if h.isAnonymous then "true" else "false")

end Handle

end BucketAcl
