/-
A verifier of signatures. It sees a request as a service receives it
(the method, the target, the headers, the body) and knows whom the
secret key belongs to. It puts the canonical request together anew from
what was received, leaving out the one header that carries the
signature, and signs it itself.
-/
import BucketAcl.Credentials
import BucketAcl.Digest.Hmac
import BucketAcl.Http.Exchange
import BucketAcl.Proofs.SigV4.QueryOrder

namespace BucketAcl.SigV4

open Text Digest

-- =========================================================== receiving

/-- A request as it is received. The target is path and query in one
text. -/
structure Received where
  method : String
  target : List Char
  headers : List (String × String)
  body : List UInt8

namespace Received

/-- What is received of a request that is sent. -/
def ofRequest (r : Http.Request) : Received where
  method := r.method.name
  target := (r.url.path.text ++ r.url.query.elim "" ("?" ++ ·)).toList
  headers := r.headers.entries
  body := Utf8.bytes r.body

/-- The value of a header. -/
def header? (r : Received) (name : String) : Option String := r.headers.lookup name

/-- The headers that a signature holds for: all but the one that
carries it. -/
def covered (r : Received) : List (String × String) :=
  r.headers.filter fun e => e.1 ≠ "authorization"

/-- The names of the headers that a signature holds for. -/
def coveredNames (r : Received) : List String := r.covered.map Prod.fst

/-- The path, which ends at the first question mark. -/
def path (r : Received) : List Char := ((cutAt '?' r.target).map Prod.fst).getD r.target

/-- The pairs of the query, which follows the first question mark. -/
def queryPairs (r : Received) : List Pair :=
  ((cutAt '?' r.target).map fun p => Url.Form.pairs p.2).getD []

-- =========================================================== verifying

/-- The canonical request, put together from what was received, with
the pairs of the query in an order. -/
def canonicalRequest (r : Received) (le : Pair → Pair → Bool) : String :=
  r.method
    ++ "\n" ++ .ofList (Url.Percent.encode (fun c => Url.Percent.isUnreserved c || c == '/')
      (Url.Percent.decodeText r.path))
    ++ "\n" ++ orderedQuery le r.queryPairs
    ++ "\n" ++ String.join (r.covered.map fun e => e.1 ++ ":" ++ e.2 ++ "\n")
    ++ "\n" ++ ";".intercalate r.coveredNames
    ++ "\n" ++ Hex.text (Sha256.hash r.body)

end Received

/-- The signature of a canonical request under a secret key: the key of
the day, of the region, of the service and of the request derive from
one another. -/
def signatureUnder (secretKey timestamp date region canonical : String) : String :=
  let code (key : List UInt8) (s : String) : List UInt8 := Hmac.code key (Utf8.bytes s)
  let key := code (code (code (code (Utf8.bytes ("AWS4" ++ secretKey)) date) region) "s3")
    "aws4_request"
  let hash := Hex.text (Sha256.hash (Utf8.bytes canonical))
  Hex.text (code key ("AWS4-HMAC-SHA256\n" ++ timestamp ++ "\n" ++ date ++ "/" ++ region
    ++ "/s3/aws4_request\n" ++ hash))

/-- What was received is signed by whoever holds the keys, for a region
and a time, as a canonical request. -/
structure Received.SignedAs (r : Received) (keys : Credentials)
    (region timestamp date canonical : String) : Prop where
  /-- The request says when it was made, and on which day. -/
  timestamp_eq : r.header? "x-amz-date" = some timestamp
  date_eq : (cutAt 'T' timestamp.toList).map Prod.fst = some date.toList
  /-- The digest that the request names is the one of its body. -/
  digest_eq : r.header? "x-amz-content-sha256" = some (Hex.text (Sha256.hash r.body))
  /-- The headers are named in ascending order, each once. -/
  ascending : r.coveredNames.Pairwise (· < ·)
  /-- The signature is the one of the canonical request. -/
  authorization_eq : r.header? "authorization" = some
    ("AWS4-HMAC-SHA256 Credential=" ++ keys.accessKey ++ "/" ++ date ++ "/" ++ region
      ++ "/s3/aws4_request, SignedHeaders=" ++ ";".intercalate r.coveredNames
      ++ ", Signature=" ++ signatureUnder keys.secretKey timestamp date region canonical)

/-- The verifier accepts what was received. -/
def Received.Verifies (r : Received) (keys : Credentials) (region timestamp date : String) :
    Prop :=
  r.SignedAs keys region timestamp date (r.canonicalRequest byName)

end BucketAcl.SigV4
