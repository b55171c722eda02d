/-
Signing a request (signature version 4). The headers to send are
collected in one map under lower-case names; signing hashes the
canonical request, and puts the signature under a key derived from the
secret, the day, the region and the service into that same map.
-/
import BucketAcl.Digest.Hmac
import BucketAcl.Handle
import BucketAcl.SigV4.Canonical
import BucketAcl.Text.Base64
import BucketAcl.Time.Civil

namespace BucketAcl.SigV4

open Text Digest

/-- The name and version under which requests are made. -/
def userAgent : String := "s3acl/0.1.0"

/-- The region that is signed for where the endpoint has none. -/
def fallbackRegion : String := "us-east-1"

-- ============================================================ headers

/-- Sets a header: names are lower case, and values lose the white space
at their ends. -/
def setHeader (headers : Index String) (name value : String) : Index String :=
  headers.insert (.ofList (name.toList.map Char.toLower)) (trimmed value)

/-- The host header of a URL: the port only where the scheme does not
imply it. -/
def hostHeader (u : Url) : String :=
  u.hostText ++ u.port?.elim "" fun p => ":" ++ toString p

/-- What is known of a body before it is sent. -/
structure Payload where
  digest : List UInt8
  md5 : Option (List UInt8) := none
  length : Option Nat := none

/-- The headers of a request before it is signed. -/
def requestHeaders (former : Index String) (u : Url) (now : Time.Instant) (payload : Payload)
    (custom : Index String) : Index String :=
  let base := [("host", hostHeader u), ("x-amz-date", now.basicText), ("user-agent", userAgent),
    ("x-amz-content-sha256", Hex.text payload.digest)]
  let length := payload.length.toList.map fun n => ("content-length", toString n)
  let md5 := payload.md5.toList.map fun d => ("content-md5", Base64.text d)
  (base ++ length ++ md5 ++ custom.entries).foldl (fun m e => setHeader m e.1 e.2) former

-- ========================================================== signature

/-- What a signature holds for: a day, a region and a service. -/
def scope (date region service : String) : String :=
  date ++ "/" ++ region ++ "/" ++ service ++ "/aws4_request"

/-- The text that is signed. -/
def stringToSign (timestamp scope requestHash : String) : String :=
  "AWS4-HMAC-SHA256\n" ++ timestamp ++ "\n" ++ scope ++ "\n" ++ requestHash

/-- The key for a day, a region and a service. -/
def signingKey (secretKey date region service : String) : List UInt8 :=
  let dateKey := Hmac.code (Utf8.bytes ("AWS4" ++ secretKey)) (Utf8.bytes date)
  let regionKey := Hmac.code dateKey (Utf8.bytes region)
  let serviceKey := Hmac.code regionKey (Utf8.bytes service)
  Hmac.code serviceKey (Utf8.bytes "aws4_request")

/-- The region that a handle signs for. -/
def signingRegion (h : Handle) : String :=
  if h.region.name = "" then fallbackRegion else h.region.name

/-- The signature of a request, in hexadecimal. -/
def signature (secretKey : String) (now : Time.Instant) (region service canonical : String) :
    String :=
  let hash := Hex.text (Sha256.hash (Utf8.bytes canonical))
  let text := stringToSign now.basicText (scope now.basicDate region service) hash
  Hex.text (Hmac.code (signingKey secretKey now.basicDate region service) (Utf8.bytes text))

/-- The value of the header that carries a signature. -/
def authorization (accessKey scope signedHeaders signature : String) : String :=
  "AWS4-HMAC-SHA256 Credential=" ++ accessKey ++ "/" ++ scope ++ ", SignedHeaders="
    ++ signedHeaders ++ ", Signature=" ++ signature

/-- A signer: whose requests are signed, for which service, at what
time. -/
structure Signer where
  handle : Handle
  service : String := "s3"
  now : Time.Instant

/-- The headers of a request that is sent after `former` ones were set.
All of them are signed, also a signature that an earlier request left
among them; an anonymous handle signs nothing. -/
def Signer.sign (s : Signer) (former : Index String) (method : String) (u : Url)
    (payload : Payload) (custom : Index String) : Index String :=
  let headers := requestHeaders former u s.now payload custom
  if s.handle.isAnonymous then headers
  else
    let region := signingRegion s.handle
    let canonical := canonicalRequest method u headers (Hex.text payload.digest)
    setHeader headers "authorization"
      (authorization s.handle.credentials.accessKey (scope s.now.basicDate region s.service)
        (signedHeaders headers)
        (signature s.handle.credentials.secretKey s.now region s.service canonical))

end BucketAcl.SigV4
