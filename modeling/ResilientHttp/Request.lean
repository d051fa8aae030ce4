import ResilientHttp.Header
import ResilientHttp.Method
import ResilientHttp.Text.Utf8
import ResilientHttp.Time.Span
import ResilientHttp.Url.Basic

/-!
# Requests

A request says what to send (method, URL, headers, body) and how to treat it (its options): whether
to try again, which statuses to accept, how large a response may be, whether to name the client,
where a credential comes from, how long an attempt may take, and the token by which the caller can
cancel it.
-/

set_option autoImplicit false

namespace ResilientHttp

/-- The name of a cancellation token. All holders of a token share it. -/
abbrev Token := String

/-- How to repeat a request: how many attempts in all, and the wait after the first. -/
structure RetryStrategy where
  maxAttempts : Nat
  baseDelay : Span
  deriving DecidableEq

/-- The strategy as diagnostics show it. -/
def RetryStrategy.describe (strategy : RetryStrategy) : String :=
  Text.describeRecord "ExponentialBackoff"
    [("max_attempts", toString strategy.maxAttempts), ("base_delay", strategy.baseDelay.text)]

/-- How to treat a request. -/
structure Options where
  retry : Option RetryStrategy := none
  validStatuses : Option (List Nat) := none
  maxResponseSize : Option Nat := none
  addUserAgent : Bool := true
  /-- Gives the credential for a URL, if there is one. -/
  authorization : Option (Url → Option String) := none
  /-- The longest time an attempt may take. -/
  timeout : Option Span := none
  cancellation : Option Token := none

namespace Options

/-- Whether a status is accepted; without a list every status is. -/
def accepts (options : Options) (status : Nat) : Bool :=
  match options.validStatuses with
  | some statuses => statuses.contains status
  | none => true

/-- The options as diagnostics show them. A credential's source is shown only to exist. -/
def describe (options : Options) : String :=
  Text.describeRecord "RequestOptions"
    [("retry_strategy", Text.describeOption (options.retry.map RetryStrategy.describe)),
      ("valid_response_codes",
        Text.describeOption (options.validStatuses.map fun statuses =>
          Text.describeList (statuses.map toString))),
      ("maximum_response_size_in_bytes",
        Text.describeOption (options.maxResponseSize.map toString)),
      ("add_user_agent", Text.describeBool options.addUserAgent),
      ("authorization_provider", Text.describeBool options.authorization.isSome),
      ("timeout", Text.describeOption (options.timeout.map Span.text)),
      ("cancellation", Text.describeOption (options.cancellation.map Text.quote))]

end Options

/-- A request. -/
structure Request where
  method : Method
  url : Url
  headers : Headers := {}
  body : Option Bytes := none
  options : Options := {}

namespace Request

/-- The request with one more header, unless it already has it. -/
def addHeader (request : Request) (name value : String) : Request :=
  { request with headers := request.headers.addValue name value }

/-- The request with further headers as they are. -/
def mergeHeaders (request : Request) (headers : Headers) : Request :=
  { request with headers := request.headers.merge headers }

/-- The request with a body. -/
def withBody (request : Request) (body : Bytes) : Request :=
  { request with body := some body }

/-- The request with options. -/
def withOptions (request : Request) (options : Options) : Request :=
  { request with options }

end Request

end ResilientHttp
