import ResilientHttp.Backoff
import ResilientHttp.HostKey
import ResilientHttp.SizeGuard
import ResilientHttp.Time.Clock

/-!
# Requests on their way

A request that was handed to the engine goes through stages. Before each attempt the breaker is
asked (`checking`); then the attempt wants a slot (`entering`), may have to wait for it (`queued`),
and has its exchange with the transport (`exchanging`). Between two attempts the request pauses
(`pausing`). In the end it has a result (`finished`), unless the caller walked away (`dropped`).

Three of the stages are places where a request can stay for a while: `queued`, `exchanging` and
`pausing`. All the others are left as soon as the request is looked at.
-/

set_option autoImplicit false

namespace ResilientHttp

/-- An exchange with the transport. -/
structure Exchange where
  attempt : Nat
  guard : SizeGuard
  /-- The end of the time that the attempt may take. -/
  deadline : Option Nat
  /-- Whether the transport is being looked at: the token was asked, and it was not cancelled. -/
  attended : Bool := false

/-- Where a request is on its way. -/
inductive Stage where
  /-- Handed in, and not looked at yet. -/
  | submitted
  /-- About to ask the breaker; so many attempts were made. -/
  | checking (made : Nat)
  /-- About to ask the gate for a slot for this attempt. -/
  | entering (attempt : Nat)
  /-- Waiting at the gate. -/
  | queued (attempt : Nat)
  /-- Holding a slot, with the transport at work. -/
  | exchanging (exchange : Exchange)
  /-- Waiting for the end of a delay; so many attempts were made. -/
  | pausing (made wake : Nat)
  | finished (result : Outcome)
  | dropped

namespace Stage

/-- The result, if there is one. -/
def result? : Stage → Option Outcome
  | finished result => some result
  | _ => none

/-- Whether the request is still on its way. -/
def isLive : Stage → Bool
  | finished _ => false
  | dropped => false
  | _ => true

/-- The exchange, if there is one. -/
def exchange? : Stage → Option Exchange
  | exchanging exchange => some exchange
  | _ => none

/-- Whether the request waits at the gate. -/
def isQueued : Stage → Bool
  | queued _ => true
  | _ => false

end Stage

/-- A request on its way. -/
structure Flight where
  id : Nat
  /-- The request as it was handed in. -/
  request : Request
  /-- The caller's handler for notices. -/
  watcher : Option Handler := none
  /-- The request as it is sent; the same as `request` until the flight is first looked at. -/
  prepared : Request := request
  /-- When the flight was first looked at. -/
  started : Nat := 0
  /-- The notices that the caller's handler was given. -/
  seen : List Notice := []
  stage : Stage := .submitted

namespace Flight

/-- The host that the request is for. -/
def host (flight : Flight) : HostKey := HostKey.ofUrl flight.request.url

/-- How often and after what delays the request is attempted. -/
def backoff (flight : Flight) : Backoff := Backoff.ofStrategy flight.request.options.retry

/-- The token by which the caller may cancel the request. -/
def token? (flight : Flight) : Option Token := flight.request.options.cancellation

/-- The guard of a new attempt. -/
def newGuard (flight : Flight) : SizeGuard :=
  { cap := flight.request.options.maxResponseSize, handler := flight.watcher
    forwarded := flight.seen }

/-- The exchange of an attempt that gets its slot now. -/
def newExchange (flight : Flight) (attempt now : Nat) : Exchange :=
  { attempt, guard := flight.newGuard
    deadline := flight.request.options.timeout.map (Clock.deadline now) }

end Flight

/-- The result of a request whose last attempt had the given outcome: a response with a status that
is not accepted is a failure. -/
def validate (options : Options) : Outcome → Outcome
  | .ok response =>
    if options.accepts response.status then .ok response else .error (.badStatus response.status)
  | .error failure => .error failure

end ResilientHttp
