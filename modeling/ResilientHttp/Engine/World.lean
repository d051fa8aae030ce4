import ResilientHttp.Breaker
import ResilientHttp.Engine.Flight
import ResilientHttp.Engine.Signal
import ResilientHttp.Gate
import ResilientHttp.Preparation

/-!
# The engine

The state of a client is a world: its configuration, the breaker and the gate that all requests
share, the tokens that were cancelled, the requests on their way, and the journal. A world changes
by labels. Some labels come from callers (`submit`, `drop`, `cancel`, `shutDown`), some from the
transport (`notify`, `pend`, `complete`), one from an observer (`ask`), one from the clock
(`advance`); and `poll` lets a request go on by one stage. Labels may come in any order, for any number of requests, so a list of labels is
a run of the client with one particular order of its concurrent steps, and what holds after every
list of labels holds whatever the order.

A label that does not fit the state changes nothing: nobody can hand in a request under a number
that is taken, and a transport can only answer for an exchange that is being looked at.

## The way of a request

* When it is first looked at, its headers are completed, once for all attempts.
* Before each attempt the breaker is asked. An open host ends the request.
* The attempt takes a slot, or waits for one. It keeps the slot until its exchange is over.
* A cancelled token ends the request wherever it waits, and comes before everything else that may
  have happened while it waited.
* The exchange ends with what the transport answers, or with a failure when its time is over. The
  size guard has the last word.
* Outcomes that speak against the host are recorded. Such an outcome is followed by another attempt
  after a delay, as long as the retry strategy has attempts left; every other outcome, and the last
  one, is checked against the accepted statuses and becomes the result.
* An attempt that was cancelled or refused by the gate ends the request at once.
-/

set_option autoImplicit false

namespace ResilientHttp

/-- The state of a client. -/
structure World where
  config : Config
  now : Nat := 0
  breaker : Breaker
  gate : Gate
  /-- The tokens that were cancelled. -/
  cancelled : List Token := []
  flights : List Flight := []
  /-- The signals with their moments, the newest first. -/
  journal : List (Nat × Signal) := []

/-- One step of a client. -/
inductive Label where
  /-- A caller hands in a request. -/
  | submit (id : Nat) (request : Request) (watcher : Option Handler)
  /-- A request goes on by one stage, if it can. -/
  | poll (id : Nat)
  /-- The transport reports progress. -/
  | notify (id : Nat) (notice : Notice)
  /-- The transport, looked at, has no answer yet. -/
  | pend (id : Nat)
  /-- The transport answers. -/
  | complete (id : Nat) (outcome : Outcome)
  /-- The caller walks away from a request. -/
  | drop (id : Nat)
  /-- A caller cancels a token. -/
  | cancel (token : Token)
  /-- A caller shuts the client down. -/
  | shutDown
  /-- Somebody closes the gate. -/
  | closeGate
  /-- An observer asks for the state of the host of a URL. -/
  | ask (url : Url)
  /-- Time passes. -/
  | advance (span : Nat)

namespace World

/-- A new client. -/
def new (config : Config) : World :=
  { config, breaker := Breaker.new config.breaker, gate := Gate.new config.maxConcurrent }

/-- A new client, or nothing if its gate would have too many slots. -/
def new? (config : Config) : Option World :=
  (Gate.new? config.maxConcurrent).map fun _ => new config

/-- The request with the given number. -/
def flight? (world : World) (id : Nat) : Option Flight :=
  world.flights.find? (·.id == id)

/-- The world in which a request is as given. -/
def put (world : World) (flight : Flight) : World :=
  { world with
    flights := world.flights.map fun other => if other.id = flight.id then flight else other }

/-- The world with one more signal in its journal. -/
def note (world : World) (signal : Signal) : World :=
  { world with journal := (world.now, signal) :: world.journal }

/-- Whether the token of a request was cancelled. -/
def isCancelled (world : World) (flight : Flight) : Bool :=
  match flight.token? with
  | some token => world.cancelled.contains token
  | none => false

/-! ## The ends of attempts and requests -/

/-- The request gets its result. -/
def finish (world : World) (flight : Flight) (result : Outcome) : World :=
  (world.note (.finished flight.id flight.request.method result
    (Clock.elapsed flight.started world.now))).put { flight with stage := .finished result }

/-- The attempt gives back its slot. -/
def endAttempt (world : World) (flight : Flight) (attempt : Nat) (outcome : Option Outcome) :
    World :=
  { world.note (.ended flight.id attempt outcome) with gate := world.gate.leave flight.id }

/-- Records an outcome that speaks against the host. -/
def account (world : World) (flight : Flight) (attempt : Nat) (outcome : Outcome) : World :=
  if Outcome.isHostFailure outcome then
    { world.note (.recorded flight.id attempt flight.host) with
      breaker := world.breaker.recordFailure flight.host world.now }
  else world

/-- The delay before another attempt, if there is to be one after this outcome. -/
def nextDelay (flight : Flight) (attempt : Nat) (outcome : Outcome) : Option Span :=
  if Outcome.isRetryable outcome then flight.backoff.nextDelay attempt else none

/-- What follows an attempt with the given outcome. -/
def settle (world : World) (flight : Flight) (attempt : Nat) (outcome : Outcome) : World :=
  if Outcome.isFinal outcome then world.finish flight outcome
  else
    let accounted := world.account flight attempt outcome
    match nextDelay flight attempt outcome with
    | some delay =>
      (accounted.note (.retrying flight.id attempt flight.request.method outcome delay)).put
        { flight with stage := .pausing attempt (Clock.deadline world.now delay) }
    | none => accounted.finish flight (validate flight.request.options outcome)

/-- The exchange is over: the transport, or the clock, has given an answer. -/
def conclude (world : World) (flight : Flight) (exchange : Exchange) (answer : Outcome) : World :=
  let outcome := exchange.guard.finish answer
  (world.endAttempt flight exchange.attempt (some outcome)).settle flight exchange.attempt outcome

/-! ## Going on by one stage -/

/-- The request is looked at for the first time. -/
def start (world : World) (flight : Flight) : World :=
  let asked := (Preparation.consulted flight.request).foldl
    (fun world url => world.note (.consulted flight.id url)) world
  asked.put
    { flight with
      prepared := prepare world.config flight.request, started := world.now
      stage := .checking 0 }

/-- The breaker is asked before the next attempt. -/
def check (world : World) (flight : Flight) (made : Nat) : World :=
  let (isOpen, breaker) := world.breaker.isOpen flight.host world.now
  let asked := { world with breaker }
  if isOpen then (asked.note (.rejected flight.id flight.host)).finish flight (.error .circuitOpen)
  else
    (asked.note (.sending flight.id (made + 1) flight.host)).put
      { flight with stage := .entering (made + 1) }

/-- The attempt has its slot, and the transport is called. -/
def begin (world : World) (flight : Flight) (attempt : Nat) : World :=
  let exchange := flight.newExchange attempt world.now
  (world.note (.called flight.id attempt flight.prepared exchange.guard.isWatching
    world.gate.inFlight)).put { flight with stage := .exchanging exchange }

/-- What the gate's answer means for an attempt. -/
def welcome (world : World) (flight : Flight) (attempt : Nat) : Admission → World
  | .admitted => world.begin flight attempt
  | .waiting => world.put { flight with stage := .queued attempt }
  | .refused => world.settle flight attempt (.error .gateClosed)

/-- The attempt asks the gate for a slot. -/
def enter (world : World) (flight : Flight) (attempt : Nat) : World :=
  if world.isCancelled flight then world.settle flight attempt (.error .cancelled)
  else
    let (answer, gate) := world.gate.enter flight.id
    { world with gate }.welcome flight attempt answer

/-- The attempt, waiting at the gate, looks whether a slot has come. -/
def claim (world : World) (flight : Flight) (attempt : Nat) : World :=
  if world.isCancelled flight then
    { world with gate := world.gate.abandon flight.id }.settle flight attempt (.error .cancelled)
  else
    let (answer, gate) := world.gate.claim flight.id
    { world with gate }.welcome flight attempt answer

/-- The exchange is looked at: first of all the token. -/
def attend (world : World) (flight : Flight) (exchange : Exchange) : World :=
  if world.isCancelled flight then
    (world.endAttempt flight exchange.attempt none).settle flight exchange.attempt
      (.error .cancelled)
  else world.put { flight with stage := .exchanging { exchange with attended := true } }

/-- The request, pausing, looks whether the delay is over. -/
def resume (world : World) (flight : Flight) (made wake : Nat) : World :=
  if world.isCancelled flight then world.finish flight (.error .cancelled)
  else if Clock.due wake world.now then world.put { flight with stage := .checking made }
  else world

/-- A request goes on by one stage. -/
def poll (world : World) (flight : Flight) : World :=
  match flight.stage with
  | .submitted => world.start flight
  | .checking made => world.check flight made
  | .entering attempt => world.enter flight attempt
  | .queued attempt => world.claim flight attempt
  | .exchanging exchange => world.attend flight exchange
  | .pausing made wake => world.resume flight made wake
  | .finished _ => world
  | .dropped => world

/-! ## What transports, callers and observers do -/

/-- The transport reports progress. The answer is that of the size guard. -/
def notify (world : World) (flight : Flight) (notice : Notice) : World :=
  match flight.stage with
  | .exchanging exchange =>
    let guard := (exchange.guard.check notice).2
    world.put
      { flight with seen := guard.forwarded, stage := .exchanging { exchange with guard } }
  | _ => world

/-- The answer that a transport gets to a notice. -/
def answer (flight : Flight) (notice : Notice) : Except Failure Unit :=
  match flight.stage with
  | .exchanging exchange => (exchange.guard.check notice).1
  | _ => .ok ()

/-- The transport has no answer yet. If the time of the attempt is over, that is its end. -/
def pend (world : World) (flight : Flight) : World :=
  match flight.stage with
  | .exchanging exchange =>
    if exchange.attended then
      match exchange.deadline, flight.request.options.timeout with
      | some deadline, some limit =>
        if Clock.due deadline world.now then
          world.conclude flight exchange (.error (Failure.noResponse limit))
        else world.put { flight with stage := .exchanging { exchange with attended := false } }
      | _, _ => world.put { flight with stage := .exchanging { exchange with attended := false } }
    else world
  | _ => world

/-- The transport answers. -/
def complete (world : World) (flight : Flight) (outcome : Outcome) : World :=
  match flight.stage with
  | .exchanging exchange =>
    if exchange.attended then world.conclude flight exchange outcome else world
  | _ => world

/-- The caller walks away. -/
def drop (world : World) (flight : Flight) : World :=
  match flight.stage with
  | .queued _ =>
    { world with gate := world.gate.abandon flight.id }.put { flight with stage := .dropped }
  | .exchanging exchange =>
    (world.endAttempt flight exchange.attempt none).put { flight with stage := .dropped }
  | .finished _ => world
  | _ => world.put { flight with stage := .dropped }

/-- The state of the host of a URL, and the world after the question. -/
def circuit (world : World) (url : Url) : Circuit × World :=
  let (circuit, breaker) := world.breaker.state (HostKey.ofUrl url) world.now
  (circuit, { world with breaker })

/-- Applies a change to a request that is there. -/
def onFlight (world : World) (id : Nat) (change : World → Flight → World) : World :=
  match world.flight? id with
  | some flight => change world flight
  | none => world

/-- The world after a step. -/
def step (world : World) : Label → World
  | .submit id request watcher =>
    if (world.flight? id).isSome then world
    else
      { world.note (.submitted id request.method request.url) with
        flights := world.flights ++ [{ id, request, watcher }] }
  | .poll id => world.onFlight id poll
  | .notify id notice => world.onFlight id (notify · · notice)
  | .pend id => world.onFlight id pend
  | .complete id outcome => world.onFlight id (complete · · outcome)
  | .drop id => world.onFlight id drop
  | .cancel token =>
    if world.cancelled.contains token then world
    else { world with cancelled := token :: world.cancelled }
  | .shutDown => { world.note .shutDown with gate := world.gate.close }
  | .closeGate => { world with gate := world.gate.close }
  | .ask url => (world.circuit url).2
  | .advance span => { world with now := world.now + span }

/-- The world after a run. -/
def run (world : World) (labels : List Label) : World := labels.foldl step world

/-! ## What there is to be seen -/

/-- The signals in the order in which they came. -/
def history (world : World) : List Signal := (world.journal.map (·.2)).reverse

/-- The exchanges that are in flight. -/
def exchanges (world : World) : List Exchange := world.flights.filterMap (·.stage.exchange?)

/-- The client as diagnostics show it. -/
def describe (world : World) : String :=
  Text.describePartialRecord "Client"
    [("config", world.config.describe),
      ("gate", Text.describeRecord "ConcurrencyGate"
        [("semaphore", ".."),
          ("capacity", Text.describeOption (world.gate.capacity.map toString))])]

/-! ## Small laws -/

theorem run_nil (world : World) : world.run [] = world := rfl

theorem run_cons (world : World) (label : Label) (labels : List Label) :
    world.run (label :: labels) = (world.step label).run labels := rfl

theorem run_append (world : World) (front back : List Label) :
    world.run (front ++ back) = (world.run front).run back :=
  List.foldl_append

end World

end ResilientHttp
