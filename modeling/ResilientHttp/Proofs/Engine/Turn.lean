import ResilientHttp.Engine.World
import Mathlib.Data.List.Induction
import Mathlib.Data.List.Nodup

/-!
# What one step of the engine can do

A step of the engine either concerns the client as a whole or moves one request from a stage to the
next. The second kind is described here as data: the signals that the step adds to the journal, the
gate and the breaker afterwards, and the request afterwards (`Change`). The relation `Turn` lists
the changes that a request can go through, one constructor for each way to leave a stage, with the
condition under which it is taken. `Move` adds the steps that concern the whole client.

Every step of the engine is a move (`World.step_move`). What is to be shown of all reachable worlds
is therefore shown of a new client and of each move (`World.invariant`), and no later
proof looks into the engine's functions again.
-/

set_option autoImplicit false

namespace ResilientHttp

/-- What a step does with one request and with what the request shares. -/
structure Change where
  /-- The signals of the step, oldest first. -/
  signals : List Signal
  gate : Gate
  breaker : Breaker
  /-- The request afterwards. -/
  flight : Flight

namespace Flight

/-- The request, now in the given stage. -/
def onward (flight : Flight) (stage : Stage) : Flight := { flight with stage }

/-- The signal that the request has its result. -/
def verdict (flight : Flight) (now : Nat) (result : Outcome) : Signal :=
  .finished flight.id flight.request.method result (Clock.elapsed flight.started now)

/-- The signals of the accounting for an outcome. -/
def recordings (flight : Flight) (attempt : Nat) (outcome : Outcome) : List Signal :=
  if Outcome.isHostFailure outcome then [.recorded flight.id attempt flight.host] else []

@[simp] theorem id_onward (flight : Flight) (stage : Stage) :
    (flight.onward stage).id = flight.id := rfl

@[simp] theorem request_onward (flight : Flight) (stage : Stage) :
    (flight.onward stage).request = flight.request := rfl

@[simp] theorem stage_onward (flight : Flight) (stage : Stage) :
    (flight.onward stage).stage = stage := rfl

@[simp] theorem prepared_onward (flight : Flight) (stage : Stage) :
    (flight.onward stage).prepared = flight.prepared := rfl

@[simp] theorem started_onward (flight : Flight) (stage : Stage) :
    (flight.onward stage).started = flight.started := rfl

@[simp] theorem host_onward (flight : Flight) (stage : Stage) :
    (flight.onward stage).host = flight.host := rfl

end Flight

namespace World

/-- The change that leaves gate and breaker alone. -/
def moving (world : World) (signals : List Signal) (flight : Flight) : Change :=
  { signals, gate := world.gate, breaker := world.breaker, flight }

/-- The breaker after the accounting for an outcome. -/
def accounted (world : World) (flight : Flight) (outcome : Outcome) : Breaker :=
  if Outcome.isHostFailure outcome then world.breaker.recordFailure flight.host world.now
  else world.breaker

/-- The world after a change. -/
def apply (world : World) (change : Change) : World :=
  { world with
    breaker := change.breaker
    gate := change.gate
    flights := (world.put change.flight).flights
    journal := (change.signals.map fun signal => (world.now, signal)).reverse ++ world.journal }

@[simp] theorem signals_moving (world : World) (signals : List Signal) (flight : Flight) :
    (world.moving signals flight).signals = signals := rfl

@[simp] theorem gate_moving (world : World) (signals : List Signal) (flight : Flight) :
    (world.moving signals flight).gate = world.gate := rfl

@[simp] theorem breaker_moving (world : World) (signals : List Signal) (flight : Flight) :
    (world.moving signals flight).breaker = world.breaker := rfl

@[simp] theorem flight_moving (world : World) (signals : List Signal) (flight : Flight) :
    (world.moving signals flight).flight = flight := rfl

@[simp] theorem config_apply (world : World) (change : Change) :
    (world.apply change).config = world.config := rfl

@[simp] theorem now_apply (world : World) (change : Change) :
    (world.apply change).now = world.now := rfl

@[simp] theorem gate_apply (world : World) (change : Change) :
    (world.apply change).gate = change.gate := rfl

@[simp] theorem breaker_apply (world : World) (change : Change) :
    (world.apply change).breaker = change.breaker := rfl

@[simp] theorem journal_apply (world : World) (change : Change) :
    (world.apply change).journal =
      (change.signals.map fun signal => (world.now, signal)).reverse ++ world.journal := rfl

/-- After a change a request is the changed one or another than that. -/
theorem mem_flights_apply (world : World) (change : Change) (flight : Flight) :
    flight ∈ (world.apply change).flights ↔
      flight = change.flight ∧ (∃ before ∈ world.flights, before.id = change.flight.id) ∨
      flight ∈ world.flights ∧ flight.id ≠ change.flight.id := by
  simp only [apply, put, List.mem_map]
  constructor
  · rintro ⟨before, member, rfl⟩
    by_cases same : before.id = change.flight.id
    · exact .inl ⟨if_pos same, before, member, same⟩
    · rw [if_neg same]
      exact .inr ⟨member, same⟩
  · rintro (⟨rfl, before, member, same⟩ | ⟨member, other⟩)
    · exact ⟨before, member, if_pos same⟩
    · exact ⟨flight, member, if_neg other⟩

/-- A change neither adds a request nor takes one away. -/
@[simp]
theorem ids_apply (world : World) (change : Change) :
    (world.apply change).flights.map (·.id) = world.flights.map (·.id) := by
  simp only [apply, put, List.map_map]
  refine List.map_congr_left fun before _ => ?_
  by_cases same : before.id = change.flight.id <;> simp [same]

/-- Replacing one of several requests with different numbers changes a count of them by what the
request counted before and what it counts now. -/
theorem countP_replace {flights : List Flight} (nodup : (flights.map (·.id)).Nodup)
    {flight changed : Flight} (member : flight ∈ flights) (same : changed.id = flight.id)
    (counted : Flight → Bool) :
    (flights.map fun other => if other.id = changed.id then changed else other).countP counted +
        (if counted flight then 1 else 0) =
      flights.countP counted + (if counted changed then 1 else 0) := by
  induction flights with
  | nil => cases member
  | cons head tail ih =>
      rw [List.map_cons, List.nodup_cons] at nodup
      simp only [List.map_cons, List.countP_cons]
      rcases List.mem_cons.1 member with rfl | later
      -- No other request has the number of the first one, so the rest stays as it is.
      · have others : (tail.map fun other => if other.id = changed.id then changed else other) =
            tail := by
          refine (List.map_congr_left fun other present => if_neg fun equal => ?_).trans
            (List.map_id tail)
          exact nodup.1 (List.mem_map.2 ⟨other, present, equal.trans same⟩)
        rw [others, if_pos same.symm]
        omega
      · have differ : head.id ≠ changed.id := fun equal =>
          nodup.1 (List.mem_map.2 ⟨flight, later, (equal.trans same).symm⟩)
        have rest := ih nodup.2 later
        rw [if_neg differ]
        omega

/-- A change of one request changes a count of requests by what that request counted before and
what it counts now. -/
theorem countP_apply {world : World} (nodup : (world.flights.map (·.id)).Nodup)
    {flight : Flight} {change : Change} (member : flight ∈ world.flights)
    (same : change.flight.id = flight.id) (counted : Flight → Bool) :
    (world.apply change).flights.countP counted + (if counted flight then 1 else 0) =
      world.flights.countP counted + (if counted change.flight then 1 else 0) :=
  countP_replace nodup member same counted

/-- The signals of a change come last in the history. -/
theorem history_apply (world : World) (change : Change) :
    (world.apply change).history = world.history ++ change.signals := by
  simp [history, List.map_reverse, Function.comp_def]

end World

/-! ## Turns -/

/-- The changes that a request can go through in a world. -/
inductive Turn (world : World) (flight : Flight) : Change → Prop
  /-- The request is looked at for the first time, and its headers are completed. -/
  | start (stage : flight.stage = .submitted) :
      Turn world flight
        (world.moving ((Preparation.consulted flight.request).map (.consulted flight.id))
          { flight with
            prepared := prepare world.config flight.request
            started := world.now
            stage := .checking 0 })
  /-- The host is open. -/
  | reject {made : Nat} (stage : flight.stage = .checking made)
      (opened : (world.breaker.isOpen flight.host world.now).1 = true) :
      Turn world flight
        { signals :=
            [.rejected flight.id flight.host, flight.verdict world.now (.error .circuitOpen)]
          gate := world.gate
          breaker := (world.breaker.isOpen flight.host world.now).2
          flight := flight.onward (.finished (.error .circuitOpen)) }
  /-- The host is closed, and the attempt goes to the gate. -/
  | pass {made : Nat} (stage : flight.stage = .checking made)
      (closed : (world.breaker.isOpen flight.host world.now).1 = false) :
      Turn world flight
        { signals := [.sending flight.id (made + 1) flight.host]
          gate := world.gate
          breaker := (world.breaker.isOpen flight.host world.now).2
          flight := flight.onward (.entering (made + 1)) }
  /-- The request is cancelled before it comes to the gate. -/
  | retreat {attempt : Nat} (stage : flight.stage = .entering attempt)
      (cancelled : world.isCancelled flight = true) :
      Turn world flight
        (world.moving [flight.verdict world.now (.error .cancelled)]
          (flight.onward (.finished (.error .cancelled))))
  /-- The gate is closed. -/
  | refuse {attempt : Nat} (stage : flight.stage = .entering attempt)
      (live : world.isCancelled flight = false)
      (answer : (world.gate.enter flight.id).1 = .refused) :
      Turn world flight
        { signals := [flight.verdict world.now (.error .gateClosed)]
          gate := (world.gate.enter flight.id).2
          breaker := world.breaker
          flight := flight.onward (.finished (.error .gateClosed)) }
  /-- A slot is free, and the exchange begins. -/
  | enter {attempt : Nat} (stage : flight.stage = .entering attempt)
      (live : world.isCancelled flight = false)
      (answer : (world.gate.enter flight.id).1 = .admitted) :
      Turn world flight
        { signals :=
            [.called flight.id attempt flight.prepared
              (flight.newExchange attempt world.now).guard.isWatching
              (world.gate.enter flight.id).2.inFlight]
          gate := (world.gate.enter flight.id).2
          breaker := world.breaker
          flight := flight.onward (.exchanging (flight.newExchange attempt world.now)) }
  /-- No slot is free. -/
  | queue {attempt : Nat} (stage : flight.stage = .entering attempt)
      (live : world.isCancelled flight = false)
      (answer : (world.gate.enter flight.id).1 = .waiting) :
      Turn world flight
        { signals := []
          gate := (world.gate.enter flight.id).2
          breaker := world.breaker
          flight := flight.onward (.queued attempt) }
  /-- The request is cancelled at the gate. -/
  | withdraw {attempt : Nat} (stage : flight.stage = .queued attempt)
      (cancelled : world.isCancelled flight = true) :
      Turn world flight
        { signals := [flight.verdict world.now (.error .cancelled)]
          gate := world.gate.abandon flight.id
          breaker := world.breaker
          flight := flight.onward (.finished (.error .cancelled)) }
  /-- The gate was closed while the request waited there. -/
  | expel {attempt : Nat} (stage : flight.stage = .queued attempt)
      (live : world.isCancelled flight = false)
      (answer : (world.gate.claim flight.id).1 = .refused) :
      Turn world flight
        { signals := [flight.verdict world.now (.error .gateClosed)]
          gate := (world.gate.claim flight.id).2
          breaker := world.breaker
          flight := flight.onward (.finished (.error .gateClosed)) }
  /-- A slot has come, and the exchange begins. -/
  | claim {attempt : Nat} (stage : flight.stage = .queued attempt)
      (live : world.isCancelled flight = false)
      (answer : (world.gate.claim flight.id).1 = .admitted) :
      Turn world flight
        { signals :=
            [.called flight.id attempt flight.prepared
              (flight.newExchange attempt world.now).guard.isWatching
              (world.gate.claim flight.id).2.inFlight]
          gate := (world.gate.claim flight.id).2
          breaker := world.breaker
          flight := flight.onward (.exchanging (flight.newExchange attempt world.now)) }
  /-- No slot has come yet. -/
  | wait {attempt : Nat} (stage : flight.stage = .queued attempt)
      (live : world.isCancelled flight = false)
      (answer : (world.gate.claim flight.id).1 = .waiting) :
      Turn world flight
        { signals := []
          gate := (world.gate.claim flight.id).2
          breaker := world.breaker
          flight := flight.onward (.queued attempt) }
  /-- The request is cancelled during its exchange. -/
  | sever {exchange : Exchange} (stage : flight.stage = .exchanging exchange)
      (cancelled : world.isCancelled flight = true) :
      Turn world flight
        { signals :=
            [.ended flight.id exchange.attempt none, flight.verdict world.now (.error .cancelled)]
          gate := world.gate.leave flight.id
          breaker := world.breaker
          flight := flight.onward (.finished (.error .cancelled)) }
  /-- The exchange goes on: it is looked at, or the transport reports or has no answer yet. -/
  | tend {exchange : Exchange} (stage : flight.stage = .exchanging exchange)
      (seen : List Notice) (guard : SizeGuard) (attended : Bool) :
      Turn world flight
        (world.moving []
          { flight with seen, stage := .exchanging { exchange with guard, attended } })
  /-- The exchange is over, and its outcome ends the request whatever it is. -/
  | surrender {exchange : Exchange} (stage : flight.stage = .exchanging exchange)
      (outcome : Outcome) (final : Outcome.isFinal outcome = true) :
      Turn world flight
        { signals :=
            [.ended flight.id exchange.attempt (some outcome), flight.verdict world.now outcome]
          gate := world.gate.leave flight.id
          breaker := world.breaker
          flight := flight.onward (.finished outcome) }
  /-- The exchange is over, and another attempt follows after a delay. -/
  | retry {exchange : Exchange} (stage : flight.stage = .exchanging exchange)
      (outcome : Outcome) (retryable : Outcome.isRetryable outcome = true) {delay : Span}
      (remaining : flight.backoff.nextDelay exchange.attempt = some delay) :
      Turn world flight
        { signals :=
            .ended flight.id exchange.attempt (some outcome) ::
              (flight.recordings exchange.attempt outcome ++
                [.retrying flight.id exchange.attempt flight.request.method outcome delay])
          gate := world.gate.leave flight.id
          breaker := world.accounted flight outcome
          flight :=
            flight.onward (.pausing exchange.attempt (Clock.deadline world.now delay)) }
  /-- The exchange is over, and the request ends with its outcome. -/
  | resolve {exchange : Exchange} (stage : flight.stage = .exchanging exchange)
      (outcome : Outcome) (notFinal : Outcome.isFinal outcome = false)
      (last : World.nextDelay flight exchange.attempt outcome = none) :
      Turn world flight
        { signals :=
            .ended flight.id exchange.attempt (some outcome) ::
              (flight.recordings exchange.attempt outcome ++
                [flight.verdict world.now (validate flight.request.options outcome)])
          gate := world.gate.leave flight.id
          breaker := world.accounted flight outcome
          flight := flight.onward (.finished (validate flight.request.options outcome)) }
  /-- The request is cancelled between two attempts. -/
  | quit {made wake : Nat} (stage : flight.stage = .pausing made wake)
      (cancelled : world.isCancelled flight = true) :
      Turn world flight
        (world.moving [flight.verdict world.now (.error .cancelled)]
          (flight.onward (.finished (.error .cancelled))))
  /-- The delay is over. -/
  | resume {made wake : Nat} (stage : flight.stage = .pausing made wake)
      (live : world.isCancelled flight = false) (due : Clock.due wake world.now = true) :
      Turn world flight (world.moving [] (flight.onward (.checking made)))
  /-- The caller walks away from a request that waits at the gate. -/
  | dropQueued {attempt : Nat} (stage : flight.stage = .queued attempt) :
      Turn world flight
        { signals := []
          gate := world.gate.abandon flight.id
          breaker := world.breaker
          flight := flight.onward .dropped }
  /-- The caller walks away from a request during its exchange. -/
  | dropExchanging {exchange : Exchange} (stage : flight.stage = .exchanging exchange) :
      Turn world flight
        { signals := [.ended flight.id exchange.attempt none]
          gate := world.gate.leave flight.id
          breaker := world.breaker
          flight := flight.onward .dropped }
  /-- The caller walks away from a request that is not at the gate and has no slot. -/
  | dropElsewhere (notQueued : flight.stage.isQueued = false)
      (notExchanging : flight.stage.exchange? = none) (noResult : flight.stage.result? = none) :
      Turn world flight (world.moving [] (flight.onward .dropped))

namespace Turn

variable {world : World} {flight : Flight} {change : Change}

/-- A turn keeps the number of the request and what was handed in. -/
theorem id_eq (turn : Turn world flight change) : change.flight.id = flight.id := by
  cases turn <;> rfl

theorem request_eq (turn : Turn world flight change) :
    change.flight.request = flight.request := by
  cases turn <;> rfl

theorem host_eq (turn : Turn world flight change) : change.flight.host = flight.host :=
  congrArg (fun request : Request => HostKey.ofUrl request.url) turn.request_eq

/-- A turn is only about its own request. -/
theorem id?_of_mem_signals (turn : Turn world flight change) :
    ∀ signal ∈ change.signals, signal.id? = some flight.id := by
  cases turn <;>
    simp [World.moving, Flight.recordings, Flight.verdict, Signal.id?] <;>
    grind [Signal.id?]

end Turn

/-! ## Moves -/

/-- The worlds that one step can lead to. -/
inductive Move (world : World) : World → Prop
  /-- Nothing happens. -/
  | idle : Move world world
  /-- A caller hands in a request. -/
  | submit (id : Nat) (request : Request) (watcher : Option Handler)
      (fresh : ∀ flight ∈ world.flights, flight.id ≠ id) :
      Move world
        { world.note (.submitted id request.method request.url) with
          flights := world.flights ++ [{ id, request, watcher }] }
  /-- A request moves on. -/
  | turn {flight : Flight} {change : Change} (member : flight ∈ world.flights)
      (turn : Turn world flight change) : Move world (world.apply change)
  /-- A token is cancelled. -/
  | cancel (token : Token) : Move world { world with cancelled := token :: world.cancelled }
  /-- The client is shut down. -/
  | shutDown : Move world { world.note .shutDown with gate := world.gate.close }
  /-- The gate is closed. -/
  | closeGate : Move world { world with gate := world.gate.close }
  /-- The breaker answers an observer. -/
  | ask (host : HostKey) :
      Move world { world with breaker := (world.breaker.state host world.now).2 }
  /-- Time passes. -/
  | advance (span : Nat) : Move world { world with now := world.now + span }

namespace World

/-- A function of the engine does nothing, or takes the request through a turn. -/
def Turns (world : World) (flight : Flight) (after : World) : Prop :=
  after = world ∨ ∃ change, Turn world flight change ∧ after = world.apply change

variable (world : World) (flight : Flight)

theorem turns_start (stage : flight.stage = .submitted) :
    world.Turns flight (world.start flight) := by
  refine .inr ⟨_, .start stage, ?_⟩
  unfold start Preparation.consulted
  split <;> rfl

theorem turns_check {made : Nat} (stage : flight.stage = .checking made) :
    world.Turns flight (world.check flight made) := by
  right
  cases answer : (world.breaker.isOpen flight.host world.now).1 with
  | true =>
      refine ⟨_, .reject stage answer, ?_⟩
      simp only [check, answer, if_true]
      rfl
  | false =>
      refine ⟨_, .pass stage answer, ?_⟩
      simp only [check, answer, Bool.false_eq_true, if_false]
      rfl

theorem turns_enter {attempt : Nat} (stage : flight.stage = .entering attempt) :
    world.Turns flight (world.enter flight attempt) := by
  right
  cases cancelled : world.isCancelled flight with
  | true =>
      refine ⟨_, .retreat stage cancelled, ?_⟩
      simp only [enter, cancelled, if_true]
      rfl
  | false =>
      simp only [enter, cancelled, Bool.false_eq_true, if_false]
      cases answer : (world.gate.enter flight.id).1 with
      | refused => exact ⟨_, .refuse stage cancelled answer, rfl⟩
      | admitted => exact ⟨_, .enter stage cancelled answer, rfl⟩
      | waiting => exact ⟨_, .queue stage cancelled answer, rfl⟩

theorem turns_claim {attempt : Nat} (stage : flight.stage = .queued attempt) :
    world.Turns flight (world.claim flight attempt) := by
  right
  cases cancelled : world.isCancelled flight with
  | true =>
      refine ⟨_, .withdraw stage cancelled, ?_⟩
      simp only [claim, cancelled, if_true]
      rfl
  | false =>
      simp only [claim, cancelled, Bool.false_eq_true, if_false]
      cases answer : (world.gate.claim flight.id).1 with
      | refused => exact ⟨_, .expel stage cancelled answer, rfl⟩
      | admitted => exact ⟨_, .claim stage cancelled answer, rfl⟩
      | waiting => exact ⟨_, .wait stage cancelled answer, rfl⟩

theorem turns_attend {exchange : Exchange} (stage : flight.stage = .exchanging exchange) :
    world.Turns flight (world.attend flight exchange) := by
  right
  cases cancelled : world.isCancelled flight with
  | true =>
      refine ⟨_, .sever stage cancelled, ?_⟩
      simp only [attend, cancelled, if_true]
      rfl
  | false =>
      refine ⟨_, .tend stage flight.seen exchange.guard true, ?_⟩
      simp only [attend, cancelled, Bool.false_eq_true, if_false]
      rfl

/-- An exchange that is over ends the attempt, and what follows is decided by its outcome. -/
theorem turns_conclude {exchange : Exchange} (stage : flight.stage = .exchanging exchange)
    (answer : Outcome) : world.Turns flight (world.conclude flight exchange answer) := by
  right
  unfold conclude
  generalize exchange.guard.finish answer = outcome
  simp only [settle]
  cases final : Outcome.isFinal outcome with
  | true => exact ⟨_, .surrender stage outcome final, rfl⟩
  | false =>
      simp only [Bool.false_eq_true, if_false]
      cases next : nextDelay flight exchange.attempt outcome with
      | some delay =>
          have both : Outcome.isRetryable outcome = true ∧
              flight.backoff.nextDelay exchange.attempt = some delay := by
            unfold nextDelay at next
            split at next
            · exact ⟨‹_›, next⟩
            · cases next
          have failure := both.1
          rw [Outcome.isRetryable_eq_isHostFailure] at failure
          refine ⟨_, .retry stage outcome both.1 both.2, ?_⟩
          simp only [account, failure, if_true, accounted, Flight.recordings]
          rfl
      | none =>
          refine ⟨_, .resolve stage outcome final next, ?_⟩
          simp only [account, accounted, Flight.recordings]
          split <;> rfl

theorem turns_resume {made wake : Nat} (stage : flight.stage = .pausing made wake) :
    world.Turns flight (world.resume flight made wake) := by
  cases cancelled : world.isCancelled flight with
  | true =>
      refine .inr ⟨_, .quit stage cancelled, ?_⟩
      simp only [resume, cancelled, if_true]
      rfl
  | false =>
      simp only [resume, cancelled, Bool.false_eq_true, if_false]
      cases due : Clock.due wake world.now with
      | true => exact .inr ⟨_, .resume stage cancelled due, rfl⟩
      | false => exact .inl rfl

theorem turns_poll : world.Turns flight (world.poll flight) := by
  cases stage : flight.stage <;> simp only [poll, stage]
  case submitted => exact world.turns_start flight stage
  case checking => exact world.turns_check flight stage
  case entering => exact world.turns_enter flight stage
  case queued => exact world.turns_claim flight stage
  case exchanging => exact world.turns_attend flight stage
  case pausing => exact world.turns_resume flight stage
  case finished => exact .inl rfl
  case dropped => exact .inl rfl

theorem turns_notify (notice : Notice) : world.Turns flight (world.notify flight notice) := by
  unfold notify
  split
  · rename_i exchange stage
    exact .inr ⟨_, .tend stage _ (exchange.guard.check notice).2 exchange.attended, rfl⟩
  · exact .inl rfl

theorem turns_pend : world.Turns flight (world.pend flight) := by
  unfold pend
  split
  · rename_i exchange stage
    have rests : Turn world flight _ := .tend stage flight.seen exchange.guard false
    split
    · split
      · split
        · exact world.turns_conclude flight stage _
        · exact .inr ⟨_, rests, rfl⟩
      · exact .inr ⟨_, rests, rfl⟩
    · exact .inl rfl
  · exact .inl rfl

theorem turns_complete (answer : Outcome) :
    world.Turns flight (world.complete flight answer) := by
  unfold complete
  split
  · rename_i exchange stage
    split
    · exact world.turns_conclude flight stage answer
    · exact .inl rfl
  · exact .inl rfl

theorem turns_drop : world.Turns flight (world.drop flight) := by
  cases stage : flight.stage <;> simp only [drop, stage]
  case queued => exact .inr ⟨_, .dropQueued stage, rfl⟩
  case exchanging => exact .inr ⟨_, .dropExchanging stage, rfl⟩
  case finished => exact .inl rfl
  all_goals
    exact .inr ⟨_, .dropElsewhere (by simp [stage, Stage.isQueued])
      (by simp [stage, Stage.exchange?]) (by simp [stage, Stage.result?]), rfl⟩

/-- A request that is found under a number is there and has that number. -/
theorem mem_of_flight? {world : World} {id : Nat} {flight : Flight}
    (found : world.flight? id = some flight) : flight ∈ world.flights ∧ flight.id = id :=
  ⟨List.mem_of_find?_eq_some found, by simpa using List.find?_some found⟩

/-- Nobody is found under a number that no request has. -/
theorem flight?_eq_none_iff {world : World} {id : Nat} :
    world.flight? id = none ↔ ∀ flight ∈ world.flights, flight.id ≠ id := by
  simp [flight?]

/-- Where no two requests have the same number, a request is found under its number. -/
theorem flight?_of_mem {world : World} (nodup : (world.flights.map (·.id)).Nodup)
    {flight : Flight} (member : flight ∈ world.flights) :
    world.flight? flight.id = some flight := by
  cases found : world.flight? flight.id with
  | none => exact absurd rfl (flight?_eq_none_iff.1 found flight member)
  | some other =>
      obtain ⟨present, same⟩ := mem_of_flight? found
      rw [List.inj_on_of_nodup_map nodup present member same]

/-- After a turn the changed request is found under its number. -/
theorem flight?_apply {world : World} (nodup : (world.flights.map (·.id)).Nodup)
    {flight : Flight} (member : flight ∈ world.flights) {change : Change}
    (turn : Turn world flight change) :
    (world.apply change).flight? flight.id = some change.flight := by
  have present : change.flight ∈ (world.apply change).flights :=
    (mem_flights_apply world change change.flight).2
      (.inl ⟨rfl, flight, member, turn.id_eq.symm⟩)
  rw [← turn.id_eq]
  exact flight?_of_mem (by rwa [ids_apply]) present

/-- A function that is applied to the request under a number takes that request through a turn. -/
theorem move_onFlight (world : World) (id : Nat) (action : World → Flight → World)
    (turns : ∀ flight, world.Turns flight (action world flight)) :
    Move world (world.onFlight id action) := by
  unfold onFlight
  split
  · rename_i flight found
    rcases turns flight with same | ⟨change, turn, after⟩
    · rw [same]
      exact .idle
    · rw [after]
      exact .turn (mem_of_flight? found).1 turn
  · exact .idle

/-- **Every step of the engine is a move.** -/
theorem step_move (world : World) (label : Label) : Move world (world.step label) := by
  cases label with
  | submit id request watcher =>
      simp only [step]
      cases found : world.flight? id with
      | some _ => exact .idle
      | none => exact .submit id request watcher (flight?_eq_none_iff.1 found)
  | poll id => exact world.move_onFlight id poll (world.turns_poll)
  | notify id notice =>
      exact world.move_onFlight id (notify · · notice) fun flight =>
        world.turns_notify flight notice
  | pend id => exact world.move_onFlight id pend (world.turns_pend)
  | complete id answer =>
      exact world.move_onFlight id (complete · · answer) fun flight =>
        world.turns_complete flight answer
  | drop id => exact world.move_onFlight id drop (world.turns_drop)
  | cancel token =>
      simp only [step]
      split
      · exact .idle
      · exact .cancel token
  | shutDown => exact .shutDown
  | closeGate => exact .closeGate
  | ask url => exact .ask (.ofUrl url)
  | advance span => exact .advance span

/-- What holds of a new client, and is kept by every move to a world in which something is granted,
holds after every run along which that is granted. -/
theorem invariant_along (config : Config) (holds granted : World → Prop)
    (start : holds (new config))
    (keep : ∀ before after, holds before → granted after → Move before after → holds after)
    (labels : List Label)
    (along : ∀ front, front <+: labels → granted ((new config).run front)) :
    holds ((new config).run labels) := by
  induction labels using List.reverseRecOn with
  | nil => exact start
  | append_singleton front last ih =>
      have whole := along (front ++ [last]) (List.prefix_refl _)
      have before := ih fun part shorter => along part (shorter.trans (List.prefix_append ..))
      rw [run_append] at whole ⊢
      exact keep _ _ before whole (step_move _ last)

/-- What holds of a new client and is kept by every move holds of every reachable world. -/
theorem invariant (config : Config) (holds : World → Prop) (start : holds (new config))
    (keep : ∀ before after, holds before → Move before after → holds after)
    (labels : List Label) : holds ((new config).run labels) :=
  invariant_along config holds (fun _ => True) start
    (fun before after kept _ => keep before after kept) labels fun _ _ => trivial

end World

end ResilientHttp
