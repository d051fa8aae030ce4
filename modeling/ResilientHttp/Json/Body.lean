import ResilientHttp.Json.Shape
import ResilientHttp.Response

/-!
# JSON bodies

A response's body can be read as a JSON value of a given shape. A missing body is an empty document.
Reading ends behind the first value.
-/

set_option autoImplicit false

namespace ResilientHttp

/-- The value in the body of a response. -/
def Response.json (response : Response) (shape : Json.Shape) : Except Failure Json.Value :=
  (Json.decode shape (response.body.getD [])).mapError fun fault =>
    .undecodable (Json.pathText fault.path) fault.message

end ResilientHttp
