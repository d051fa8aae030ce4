import ResilientHttp.HostKey
import ResilientHttp.Request
import ResilientHttp.Response

/-!
# What the engine tells

Everything that an observer can learn about the work of the engine is a signal: that a request came
in, that its host was turned away, that an attempt was handed to the transport, how it ended, that
another attempt will follow, and how the request ended. The engine keeps its signals in a journal;
metrics and traces are readings of the journal.

A request is named by a number, an attempt by its place among the attempts of its request, counted
from one.
-/

set_option autoImplicit false

namespace ResilientHttp

/-- One thing that an observer learns. -/
inductive Signal where
  /-- A request came in. -/
  | submitted (id : Nat) (method : Method) (url : Url)
  /-- The request's source of credentials was asked. -/
  | consulted (id : Nat) (url : Url)
  /-- The host was open before an attempt. -/
  | rejected (id : Nat) (host : HostKey)
  /-- The host was closed before an attempt, and the attempt goes to the gate. -/
  | sending (id attempt : Nat) (host : HostKey)
  /-- The attempt has its slot, and the transport is given the request, with or without a handler
  for notices, while so many slots are in flight. -/
  | called (id attempt : Nat) (request : Request) (watched : Bool) (inFlight : Nat)
  /-- The attempt has given back its slot: with an outcome, or given up. -/
  | ended (id attempt : Nat) (outcome : Option Outcome)
  /-- A failure of the host was recorded. -/
  | recorded (id attempt : Nat) (host : HostKey)
  /-- After this outcome another attempt follows when the delay is over. -/
  | retrying (id attempt : Nat) (method : Method) (outcome : Outcome) (delay : Span)
  /-- The request has its result. -/
  | finished (id : Nat) (method : Method) (result : Outcome) (elapsed : Span)
  /-- The client stops admitting requests. -/
  | shutDown

namespace Signal

/-- The request that the signal is about. -/
def id? : Signal → Option Nat
  | submitted id _ _ => some id
  | consulted id _ => some id
  | rejected id _ => some id
  | sending id _ _ => some id
  | called id _ _ _ _ => some id
  | ended id _ _ => some id
  | recorded id _ _ => some id
  | retrying id _ _ _ _ => some id
  | finished id _ _ _ => some id
  | shutDown => none

end Signal

end ResilientHttp
