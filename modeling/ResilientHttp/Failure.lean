import ResilientHttp.Time.Span
import ResilientHttp.Url.Fault

/-!
# Why a request fails

The causes are kept apart so that a caller can react to each in its own way: an unhealthy host
(`circuitOpen`), an answer that was not wanted (`badStatus`, `tooLarge`), the network itself
(`transport`), the caller giving up (`cancelled`), the layer shutting down (`gateClosed`), and a
request or an answer that makes no sense (`invalidRequest`, `invalidUrl`, `undecodable`).

Two causes say something about the health of the host: a failed exchange and an answer that is too
large. Exactly these count against the host and exactly these are worth another attempt
(`isRetryable_eq_isHostFailure`).

The wording of every failure is in `Failure.message`.
-/

set_option autoImplicit false

namespace ResilientHttp

/-- The part of an exchange that failed. -/
inductive TransportKind where
  | connect
  | timeout
  | tls
  | body
  | other
  deriving DecidableEq, Repr

namespace TransportKind

/-- Every kind. -/
def all : List TransportKind := [connect, timeout, tls, body, other]

/-- The word for the kind. -/
def text : TransportKind → String
  | connect => "connect"
  | timeout => "timeout"
  | tls => "tls"
  | body => "body"
  | other => "other"

/-- The kind that a word names. -/
def ofText? (word : String) : Option TransportKind :=
  all.find? fun kind => kind.text == word

end TransportKind

/-- A failed exchange: its kind and what the transport had to say about it. -/
structure TransportFault where
  kind : TransportKind
  detail : String
  deriving DecidableEq, Repr

/-- The wording of a failed exchange. -/
def TransportFault.message (fault : TransportFault) : String :=
  fault.kind.text ++ ": " ++ fault.detail

/-- Why a request failed. -/
inductive Failure where
  /-- The breaker of the host was open. -/
  | circuitOpen
  /-- The response has, or announces, more bytes than the request allows. -/
  | tooLarge (bytes : Nat)
  /-- The status is not one the request accepts. -/
  | badStatus (status : Nat)
  /-- The exchange failed. -/
  | transport (fault : TransportFault)
  /-- The caller cancelled the request. -/
  | cancelled
  /-- The gate was closed. -/
  | gateClosed
  /-- The request cannot be sent as it is. -/
  | invalidRequest (detail : String)
  /-- The text is not a URL. -/
  | invalidUrl (fault : UrlFault)
  /-- The body is not a document of the wanted form. -/
  | undecodable (path detail : String)
  deriving DecidableEq, Repr

namespace Failure

/-- A failure to connect. -/
def connection (detail : String) : Failure :=
  .transport ⟨.connect, detail⟩

/-- An exchange that was not complete in time. -/
def timeout (detail : String) : Failure :=
  .transport ⟨.timeout, detail⟩

/-- The failure of an exchange that did not end within the given span. -/
def noResponse (limit : Span) : Failure :=
  timeout ("no response after " ++ limit.text)

/-- The wording of a failure. -/
def message : Failure → String
  | circuitOpen => "circuit breaker triggered"
  | tooLarge bytes => "response too large: " ++ toString bytes ++ " bytes"
  | badStatus status => "bad response status code " ++ toString status
  | transport fault => "transport error: " ++ fault.message
  | cancelled => "request cancelled"
  | gateClosed => "concurrency gate closed"
  | invalidRequest detail => "invalid request: " ++ detail
  | invalidUrl fault => "invalid URL: " ++ fault.message
  | undecodable path detail =>
    "JSON deserialization error at '" ++ path ++ "': " ++ detail

/-- Whether another attempt may succeed. -/
def isRetryable : Failure → Bool
  | transport _ => true
  | tooLarge _ => true
  | _ => false

/-- Whether the failure counts against the host. -/
def isHostFailure : Failure → Bool
  | transport _ => true
  | tooLarge _ => true
  | _ => false

/-- Whether the caller gave up. -/
def isCancelled : Failure → Bool
  | cancelled => true
  | _ => false

/-- The kind of a failed exchange. -/
def transportKind? : Failure → Option TransportKind
  | transport fault => some fault.kind
  | _ => none

/-- Whether the exchange was not complete in time. -/
def isTimeout (failure : Failure) : Bool :=
  failure.transportKind? == some .timeout

/-- Whether no connection could be made. -/
def isConnection (failure : Failure) : Bool :=
  failure.transportKind? == some .connect

/-- The status that was not accepted. -/
def status? : Failure → Option Nat
  | badStatus status => some status
  | _ => none

/-- The wording of the fault that lies under the failure. -/
def source? : Failure → Option String
  | transport fault => some fault.message
  | invalidUrl fault => some fault.message
  | _ => none

/-- Another attempt is worth it exactly after the failures that count against the host. -/
theorem isRetryable_eq_isHostFailure (failure : Failure) :
    failure.isRetryable = failure.isHostFailure := by
  cases failure <;> rfl

end Failure

end ResilientHttp
