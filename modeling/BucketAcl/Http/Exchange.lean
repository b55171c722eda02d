/-
Requests and replies, and the network between them: a reply for each
request that is sent, in order, as long as there are any.

A request is checked before it is sent, and only one that is sent is
recorded. It is recorded as it is handed to the client that sends it.
What the client does by itself is left out: the `accept` header and the
`authorization` by user and password of the URL that it adds, a limit on
the length of URLs, and further requests where a reply redirects it. A
reply is the one that the client gives back.
-/
import BucketAcl.Http.Status
import BucketAcl.Index
import BucketAcl.Text.Utf8
import BucketAcl.Url.Basic

namespace BucketAcl.Http

/-- The methods that are used. -/
inductive Method where
  | get
  | head
  | put
  deriving DecidableEq

/-- The name of a method. -/
def Method.name : Method → String
  | get => "GET"
  | head => "HEAD"
  | put => "PUT"

/-- A request; one without a body has an empty one. -/
structure Request where
  method : Method
  url : Url
  headers : Index String
  body : String

/-- A reply: its headers in order of arrival, with names in lower case. -/
structure Reply where
  status : Status
  headers : List (String × List UInt8)
  body : List UInt8

-- ============================================================ replies

/-- A space or a tab, which a header value loses at its ends. -/
def isPadding (b : UInt8) : Bool := b == 0x20 || b == 0x09

/-- A reply as it comes in: names are put in lower case, and values lose
the spaces and tabs at their ends. -/
def Reply.ofWire (status : Nat) (headers : List (List UInt8 × List UInt8)) (body : List UInt8) :
    Reply where
  status := ⟨status⟩
  headers := headers.map fun (name, value) =>
    (.ofList ((Text.Utf8.decodeLossy name).map Char.toLower),
      ((value.dropWhile isPadding).reverse.dropWhile isPadding).reverse)
  body := body

/-- The body as text. -/
def Reply.text (r : Reply) : String := Text.Utf8.lossy r.body

/-- The first value of a header, if it is visible ASCII. -/
def Reply.header? (r : Reply) (name : String) : Option String :=
  match r.headers.lookup name with
  | some value =>
    if value.all fun b => b == 0x09 || (0x20 ≤ b && b < 0x7f) then
      some (.ofList (value.map fun b => Char.ofNat b.toNat))
    else none
  | none => none

/-- The headers by name, each with its values in order of arrival; an
empty value is none. -/
def Reply.headerMap (r : Reply) : Index (List String) :=
  r.headers.foldl (fun m (name, value) =>
    if value = [] then m
    else m.alter name fun former => former.getD [] ++ [Text.Utf8.lossy value]) .empty

-- =========================================================== requests

/-- Marks that may stand in the name of a header, beside letters and
digits. -/
def nameMarks : List Char := "!#$%&'*+-.^_`|~".toList

/-- The name of a header can be sent: it is not empty, and has letters,
digits and a few marks only. -/
def isSendableName (name : String) : Bool :=
  name ≠ "" && name.toList.all fun c => c.isAlphanum || nameMarks.contains c

/-- The value of a header can be sent: it has no control character but
tabs. -/
def isSendableValue (value : String) : Bool :=
  value.toList.all fun c => c == '\t' || (' ' ≤ c && c != '\x7f')

/-- Every header of a request can be sent. -/
def Request.isSendable (r : Request) : Bool :=
  r.headers.entries.all fun (name, value) => isSendableName name && isSendableValue value

-- ============================================================ network

/-- A network: whether anything on it is reached, the replies that will
come, and the requests that were sent. -/
structure Network where
  isReached : Bool := true
  replies : List Reply
  sent : List Request := []

/-- A reply to a request: to a request for headers only, and with some
status codes, no body comes. -/
def Reply.to (r : Reply) (request : Request) : Reply :=
  if request.method = .head ∨ r.status.isBodiless then { r with body := [] } else r

/-- Sends a request and takes the next reply, if one comes. -/
def Network.send (n : Network) (request : Request) : Option Reply × Network :=
  if n.isReached then
    let sent := n.sent ++ [request]
    match n.replies with
    | reply :: replies => (some (reply.to request), { n with replies, sent })
    | [] => (none, { n with sent })
  else (none, n)

end BucketAcl.Http
