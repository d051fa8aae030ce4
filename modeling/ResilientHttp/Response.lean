import ResilientHttp.Failure
import ResilientHttp.Header
import ResilientHttp.Text.Utf8

/-!
# Responses

A response has a status, headers and possibly a body. No body and an empty body are different,
although both have no bytes. The body can be read as text, which it is exactly when it is UTF-8.

An outcome is what an attempt or a request ends with: a response or a failure. An outcome counts
against the host, and is worth another attempt, when it is a server error or one of the failures
that say something about the host.
-/

set_option autoImplicit false

namespace ResilientHttp

/-- A response. -/
structure Response where
  status : Nat := 200
  headers : Headers := {}
  body : Option Bytes := none
  deriving DecidableEq, Repr

namespace Response

/-- The number of bytes of the body, zero if there is none. -/
def bodyLength (response : Response) : Nat := (response.body.getD []).length

/-- The first value of a header. -/
def header? (response : Response) (name : String) : Option String :=
  response.headers.first? name

/-- Whether the status is between 200 and 299. -/
def isSuccess (response : Response) : Bool := 200 ≤ response.status && response.status < 300

/-- Whether the status is between 400 and 499. -/
def isClientError (response : Response) : Bool := 400 ≤ response.status && response.status < 500

/-- Whether the status is 500 or more. -/
def isServerError (response : Response) : Bool := 500 ≤ response.status

/-- The body as text; a missing body is the empty text. -/
def text (response : Response) : Except Utf8.Fault String :=
  (Utf8.decode (response.body.getD [])).map String.ofList

end Response

/-- What an attempt or a request ends with. -/
abbrev Outcome := Except Failure Response

namespace Outcome

instance : DecidableEq Outcome := fun left right =>
  match left, right with
  | .ok first, .ok second =>
    if same : first = second then isTrue (congrArg _ same)
    else isFalse (fun equal => same (Except.ok.inj equal))
  | .error first, .error second =>
    if same : first = second then isTrue (congrArg _ same)
    else isFalse (fun equal => same (Except.error.inj equal))
  | .ok _, .error _ => isFalse nofun
  | .error _, .ok _ => isFalse nofun

/-- Whether the outcome counts against the host. -/
def isHostFailure : Outcome → Bool
  | .ok response => response.isServerError
  | .error failure => failure.isHostFailure

/-- Whether another attempt may have a better outcome. -/
def isRetryable : Outcome → Bool
  | .ok response => response.isServerError
  | .error failure => failure.isRetryable

/-- Whether the request ends with this outcome of an attempt at once, whatever else holds. -/
def isFinal : Outcome → Bool
  | .error .cancelled => true
  | .error .gateClosed => true
  | _ => false

/-- Another attempt is worth it exactly after the outcomes that count against the host. -/
theorem isRetryable_eq_isHostFailure (outcome : Outcome) :
    isRetryable outcome = isHostFailure outcome := by
  cases outcome with
  | ok response => rfl
  | error failure => exact failure.isRetryable_eq_isHostFailure

end Outcome

end ResilientHttp
