import ResilientHttp.Failure
import ResilientHttp.Request
import ResilientHttp.Wire.HeaderMap
import ResilientHttp.Wire.Uri

/-!
# Messages to send

A request becomes a message: the target that its URL spells, its method, its headers grouped by
name, and its body. A URL that is no target, or a header that cannot be sent, makes the request
invalid; the target is looked at first.
-/

set_option autoImplicit false

namespace ResilientHttp.Wire

/-- A message to send. -/
structure Outgoing where
  method : Method
  uri : Uri
  headers : HeaderMap
  body : Bytes
  deriving DecidableEq, Repr

/-- The message for a request. -/
def Outgoing.ofRequest (request : Request) : Except Failure Outgoing := do
  let uri ← (Uri.read request.url.text).mapError fun fault => .invalidRequest fault.message
  let headers ←
    (HeaderMap.ofHeaders request.headers).mapError fun fault => .invalidRequest fault.message
  pure { method := request.method, uri, headers, body := request.body.getD [] }

end ResilientHttp.Wire
