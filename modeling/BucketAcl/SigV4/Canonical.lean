/-
The canonical form of a request: one text in which method, path, query,
headers and the digest of the body stand in a fixed order and spelling,
so that both sides of a request hash the same.
-/
import BucketAcl.Index
import BucketAcl.Url.Basic

namespace BucketAcl.SigV4

open Url

/-- The path: decoded, and encoded again with everything escaped but the
unreserved characters and slashes. -/
def canonicalUri (u : Url) : String :=
  .ofList (Percent.encode (fun c => Percent.isUnreserved c || c == '/')
    (Percent.decodeText u.path.text.toList))

/-- One pair of the query, name and value with everything escaped but
the unreserved characters. -/
def canonicalPair (pair : List Char × List Char) : String :=
  .ofList (Percent.encode Percent.isUnreserved pair.1
    ++ '=' :: Percent.encode Percent.isUnreserved pair.2)

/-- The pairs of the query, ascending by their whole text. -/
def canonicalQuery (u : Url) : String :=
  "&".intercalate ((u.queryPairs.map canonicalPair).mergeSort fun a b => decide (a ≤ b))

/-- Each header on a line of its own. -/
def canonicalHeaders (headers : Index String) : String :=
  String.join (headers.entries.map fun (name, value) => name ++ ":" ++ value ++ "\n")

/-- The names of the headers, ascending. -/
def signedHeaders (headers : Index String) : String := ";".intercalate headers.names

/-- The canonical form of a request; `digest` is that of its body, in
hexadecimal. -/
def canonicalRequest (method : String) (u : Url) (headers : Index String) (digest : String) :
    String :=
  "\n".intercalate
    [method, canonicalUri u, canonicalQuery u, canonicalHeaders headers, signedHeaders headers,
      digest]

end BucketAcl.SigV4
