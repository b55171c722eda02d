/-
A refused request, as it is reported: the status of the reply, what the
request was about, and what the reply says. A body that is no document
of the store is kept as it is.
-/
import BucketAcl.Http.Exchange
import BucketAcl.Reply.ErrorDocument

namespace BucketAcl

/-- A request that was refused. -/
structure Refusal where
  status : Http.Status
  bucket : String
  key : Option String
  code : Option String := none
  message : Option String := none
  requestId : Option String := none
  hostId : Option String := none
  body : Option String := none
  deriving DecidableEq

namespace Refusal

/-- A text that is there and not empty, or a dash. -/
def orDash (s : Option String) : String := if s.getD "" = "" then "-" else s.getD ""

/-- The refusal in one line, with the message or else the body. -/
def text (r : Refusal) : String :=
  "HTTP Status Code: " ++ r.status.text ++ ", Bucket: " ++ r.bucket ++ ", Key: " ++ orDash r.key
    ++ ", Code: " ++ orDash r.code ++ ", Message: " ++ orDash (r.message <|> r.body)

/-- The refusal that a reply makes of a request on a bucket and a key.
Ids in the headers go before those in the document. -/
def ofReply (reply : Http.Reply) (bucket : String) (key : Option String) : Refusal :=
  let requestId := reply.header? "x-amz-request-id"
  let hostId := reply.header? "x-amz-id-2"
  let base : Refusal := { status := reply.status, bucket, key, requestId, hostId }
  match ErrorDocument.ofXml reply.text with
  | .ok d =>
    { base with
      code := some d.code
      message := some d.message
      requestId := requestId <|> d.requestId
      hostId := hostId <|> d.hostId }
  | .error _ =>
    if reply.text = "" then base else { base with body := some reply.text }

end Refusal

end BucketAcl
