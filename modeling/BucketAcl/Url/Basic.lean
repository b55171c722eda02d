/-
URLs by their parts. The parts are kept in their encoded form, so that
the text of a URL is only their concatenation; the views and the three
operations that requests are built with come after it.
-/
import BucketAcl.Url.Form
import BucketAcl.Url.Host
import BucketAcl.Url.Path

namespace BucketAcl

namespace Url

/-- The port that a scheme implies, for the schemes that have one. -/
def defaultPort? : String → Option Nat
  | "http" => some 80
  | "https" => some 443
  | "ws" => some 80
  | "wss" => some 443
  | "ftp" => some 21
  | _ => none

/-- The special schemes: those that imply a port, and files. -/
def isSpecial (scheme : String) : Bool := (defaultPort? scheme).isSome || scheme == "file"

/-- Who is asked, where, and as which user. `userInfo` ends with its
`@`, or is empty; the port is none where the scheme implies it. -/
structure Authority where
  userInfo : String
  host : Host
  port : Option Nat
  deriving DecidableEq

/-- The authority as it stands in a URL. -/
def Authority.text (a : Authority) : String :=
  a.userInfo ++ a.host.text ++ (a.port.elim "" fun p => ":" ++ toString p)

end Url

/-- A URL: its parts in encoded form. -/
structure Url where
  scheme : String
  authority : Option Url.Authority
  path : Url.Path
  query : Option String
  fragment : Option String
  deriving DecidableEq

namespace Url

-- ============================================================= views

/-- What stands between scheme and path. Without an authority a path
that begins with two slashes is set off, so as not to look like one. -/
def authorityText (u : Url) : String :=
  match u.authority, u.path with
  | some a, _ => "//" ++ a.text
  | none, .segments ("" :: _ :: _) => "/."
  | none, _ => ""

/-- The URL without its fragment. -/
def textWithoutFragment (u : Url) : String :=
  u.scheme ++ ":" ++ u.authorityText ++ u.path.text ++ u.query.elim "" ("?" ++ ·)

/-- The URL as text. -/
def text (u : Url) : String := u.textWithoutFragment ++ u.fragment.elim "" ("#" ++ ·)

/-- The text of the host, empty if there is none. -/
def hostText (u : Url) : String := u.authority.elim "" (·.host.text)

/-- The port, where it is not the one that the scheme implies. -/
def port? (u : Url) : Option Nat := u.authority.bind (·.port)

/-- The pairs of the query, decoded. -/
def queryPairs (u : Url) : List (List Char × List Char) :=
  u.query.elim [] fun q => Form.pairs q.toList

-- ======================================================== operations

/-- Leaves out a last path segment that is empty, and not the only one. -/
def popEmptySegment (u : Url) : Url :=
  match u.path with
  | .segments ss => { u with path := .segments (Segments.popEmpty ss) }
  | .rootless _ => u

/-- Appends a path segment; a path that is not divided takes none. -/
def pushSegment (u : Url) (segment : String) : Url :=
  match u.path with
  | .segments ss => { u with path := .segments (Segments.push (isSpecial u.scheme) ss segment) }
  | .rootless _ => u

/-- Appends a pair to the query. -/
def appendPair (u : Url) (name value : String) : Url :=
  let former := u.query.getD ""
  let separator := if former = "" then "" else "&"
  let pair := String.ofList (Form.encodePair name.toList value.toList)
  { u with query := some (former ++ separator ++ pair) }

end Url

end BucketAcl
