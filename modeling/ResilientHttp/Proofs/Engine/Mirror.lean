import ResilientHttp.Proofs.Engine.Course
import Mathlib.Data.List.Find

/-!
# A world with the requests to one host alone

Beside a world stands another that has, of the requests of the first, those to one host and no
others (`World.Mirrors`). The time is the same, the requests stand as they do in the first world, and
their tales are the same but for one thing: a call tells how many slots are in flight, and that
number counts the slots of all. The tokens of these requests are cancelled in both worlds or in
neither, and as many failures of the host were recorded, at the same moments.

Gates and breakers are not compared. What matters of them are their answers, so every function of the
engine keeps the relation when it is applied to the same request in both worlds, if breaker and gate
answer alike; and a function that is applied to a request to another host, in the first world alone,
keeps it too.
-/

set_option autoImplicit false

namespace ResilientHttp

/-! ## Tales without the slots of others -/

namespace Signal

/-- The signal without the number of slots in flight. -/
def veiled : Signal → Signal
  | called id attempt request watched _ => called id attempt request watched 0
  | signal => signal

@[simp]
theorem id?_veiled (signal : Signal) : signal.veiled.id? = signal.id? := by
  cases signal <;> rfl

end Signal

/-- The number of slots in flight is no matter of the failures. -/
@[simp]
theorem FailureLog.note_veiled (log : FailureLog) (now : Nat) (signal : Signal) :
    log.note now signal.veiled = log.note now signal := by
  cases signal <;> rfl

namespace World

/-- The tale of a request without the numbers of slots in flight. -/
def ownTale (world : World) (id : Nat) : List (Nat × Signal) :=
  (world.tale id).map fun entry => (entry.1, entry.2.veiled)

theorem ownTale_note (world : World) (signal : Signal) (id : Nat) :
    (world.note signal).ownTale id =
      world.ownTale id ++
        if signal.id? = some id then [(world.now, signal.veiled)] else [] := by
  unfold ownTale
  split
  · rename_i about
    rw [tale_note world about, List.map_append]
    rfl
  · rename_i other
    rw [tale_note_of_ne world other, List.append_nil]

/-! ## The relation -/

/-- All requests of a world under a number are to one host. -/
def Own (world : World) (host : HostKey) (id : Nat) : Prop :=
  ∀ flight ∈ world.flights, flight.id = id → flight.host = host

/-- The second world has the requests of the first to one host, which wield these tokens. -/
structure Mirrors (host : HostKey) (tokens : List Token) (whole part : World) : Prop where
  config : part.config = whole.config
  now : part.now = whole.now
  flights : part.flights = whole.flights.filter (·.host == host)
  wielded : ∀ flight ∈ part.flights, ∀ token, flight.token? = some token → token ∈ tokens
  cancelled : ∀ token ∈ tokens, (token ∈ part.cancelled ↔ token ∈ whole.cancelled)
  tales : ∀ id, whole.Own host id → part.ownTale id = whole.ownTale id
  log : part.failureLog host = whole.failureLog host

/-- A request to the host, as the worlds have it or as it is to be put there. -/
structure Owned (host : HostKey) (tokens : List Token) (whole : World) (flight : Flight) :
    Prop where
  own : whole.Own host flight.id
  here : flight.host = host
  wielded : ∀ token, flight.token? = some token → token ∈ tokens

/-- Another stage makes no other owner. -/
theorem Owned.still {host : HostKey} {tokens : List Token} {whole after : World}
    {flight changed : Flight} (owned : Owned host tokens whole flight)
    (flights : after.flights = whole.flights) (id : changed.id = flight.id)
    (request : changed.request = flight.request) : Owned host tokens after changed where
  own := by simpa only [Own, flights, id] using owned.own
  here := by simpa only [Flight.host, request] using owned.here
  wielded := by simpa only [Flight.token?, request] using owned.wielded

/-- Cancelling a token adds it to the cancelled ones and does nothing else. -/
theorem step_cancel (world : World) (token : Token) :
    ∃ cancelled, world.step (.cancel token) = { world with cancelled } ∧
      ∀ other, other ∈ cancelled ↔ other ∈ world.cancelled ∨ other = token := by
  refine ⟨(world.step (.cancel token)).cancelled, ?_, fun other => ?_⟩
  · simp only [step]
    split <;> rfl
  · rw [mem_cancelled_step, Label.cancel.injEq, eq_comm]

namespace Mirrors

variable {host : HostKey} {tokens : List Token} {whole part : World} {flight : Flight}

theorem new (config : Config) (host : HostKey) (tokens : List Token) :
    Mirrors host tokens (World.new config) (World.new config) where
  config := rfl
  now := rfl
  flights := rfl
  wielded := by simp [World.new]
  cancelled := fun _ _ => Iff.rfl
  tales := fun _ _ => rfl
  log := rfl

theorem mem_flights (mirrors : Mirrors host tokens whole part) :
    flight ∈ part.flights ↔ flight ∈ whole.flights ∧ flight.host = host := by
  rw [mirrors.flights, List.mem_filter, beq_iff_eq]

/-- A request to the host is found in both worlds or in neither. -/
theorem flight?_eq (mirrors : Mirrors host tokens whole part) {id : Nat} (own : whole.Own host id) :
    part.flight? id = whole.flight? id := by
  unfold flight?
  rw [mirrors.flights, List.find?_filter]
  refine List.find?_congr fun other member => ?_
  by_cases same : other.id = id
  · simp [own other member same, same]
  · simp [same]

theorem owned (mirrors : Mirrors host tokens whole part) {id : Nat} (own : whole.Own host id)
    (found : whole.flight? id = some flight) : Owned host tokens whole flight := by
  obtain ⟨member, rfl⟩ := mem_of_flight? found
  have here := own flight member rfl
  exact ⟨own, here, mirrors.wielded flight (mirrors.mem_flights.2 ⟨member, here⟩)⟩

theorem isCancelled_eq (mirrors : Mirrors host tokens whole part)
    (owned : Owned host tokens whole flight) :
    part.isCancelled flight = whole.isCancelled flight := by
  unfold isCancelled
  cases named : flight.token? with
  | none => rfl
  | some token =>
      have same := mirrors.cancelled token (owned.wielded token named)
      exact Bool.eq_iff_iff.2 (by simpa only [List.contains_iff_mem] using same)

/-! ### What both worlds do -/

/-- Gates and breakers are not compared. -/
theorem sharing (mirrors : Mirrors host tokens whole part) (gate otherGate : Gate)
    (breaker otherBreaker : Breaker) :
    Mirrors host tokens { whole with gate, breaker }
      { part with gate := otherGate, breaker := otherBreaker } :=
  ⟨mirrors.config, mirrors.now, mirrors.flights, mirrors.wielded, mirrors.cancelled, mirrors.tales,
    mirrors.log⟩

/-- Both tell the same, but for the slots of others. -/
theorem note (mirrors : Mirrors host tokens whole part) {signal other : Signal}
    (same : other.veiled = signal.veiled) :
    Mirrors host tokens (whole.note signal) (part.note other) :=
  { mirrors with
    tales := by
      intro id own
      have about : other.id? = signal.id? := by
        rw [← Signal.id?_veiled, same, Signal.id?_veiled]
      rw [ownTale_note, ownTale_note, mirrors.tales id own, mirrors.now, same, about]
    log := by
      have both : part.failureLog.note part.now other host =
          whole.failureLog.note whole.now signal host := by
        rw [← FailureLog.note_veiled, same, FailureLog.note_veiled, mirrors.now]
        have log := mirrors.log
        cases signal <;> simp only [FailureLog.note, FailureLog.record, log]
      exact both }

/-- Both replace the request by the same. -/
theorem put (mirrors : Mirrors host tokens whole part) (owned : Owned host tokens whole flight) :
    Mirrors host tokens (whole.put flight) (part.put flight) where
  config := mirrors.config
  now := mirrors.now
  flights := by
    simp only [World.put, mirrors.flights, List.filter_map]
    congr 1
    refine List.filter_congr fun other member => ?_
    by_cases same : other.id = flight.id
    · simp [same, owned.here, owned.own other member same]
    · simp [same]
  wielded := by
    intro changed member
    obtain ⟨before, present, rfl⟩ := List.mem_map.1 member
    split
    · exact owned.wielded
    · exact mirrors.wielded before present
  cancelled := mirrors.cancelled
  tales := by
    intro id own
    refine mirrors.tales id fun other member same => ?_
    by_cases replaced : other.id = flight.id
    · exact owned.own other member replaced
    · exact own other (List.mem_map.2 ⟨other, member, if_neg replaced⟩) same
  log := mirrors.log

/-! ### The functions of the engine -/

theorem finish (mirrors : Mirrors host tokens whole part) (owned : Owned host tokens whole flight)
    (result : Outcome) :
    Mirrors host tokens (whole.finish flight result) (part.finish flight result) := by
  unfold World.finish
  rw [mirrors.now]
  exact (mirrors.note rfl).put (owned.still rfl rfl rfl)

theorem endAttempt (mirrors : Mirrors host tokens whole part) (attempt : Nat)
    (outcome : Option Outcome) :
    Mirrors host tokens (whole.endAttempt flight attempt outcome)
      (part.endAttempt flight attempt outcome) :=
  (mirrors.note rfl).sharing ..

theorem account (mirrors : Mirrors host tokens whole part) (flight : Flight) (attempt : Nat)
    (outcome : Outcome) :
    Mirrors host tokens (whole.account flight attempt outcome)
      (part.account flight attempt outcome) := by
  unfold World.account
  split
  · exact (mirrors.note rfl).sharing ..
  · exact mirrors

theorem settle (mirrors : Mirrors host tokens whole part) (owned : Owned host tokens whole flight)
    (attempt : Nat) (outcome : Outcome) :
    Mirrors host tokens (whole.settle flight attempt outcome)
      (part.settle flight attempt outcome) := by
  have accounted := mirrors.account flight attempt outcome
  have still : (whole.account flight attempt outcome).flights = whole.flights := by
    unfold World.account
    split <;> rfl
  have kept : Owned host tokens (whole.account flight attempt outcome) flight :=
    owned.still still rfl rfl
  unfold World.settle
  split
  · exact mirrors.finish owned outcome
  · simp only
    split
    · rw [mirrors.now]
      exact (accounted.note rfl).put (kept.still rfl rfl rfl)
    · exact accounted.finish kept _

theorem conclude (mirrors : Mirrors host tokens whole part)
    (owned : Owned host tokens whole flight) (exchange : Exchange) (answer : Outcome) :
    Mirrors host tokens (whole.conclude flight exchange answer)
      (part.conclude flight exchange answer) :=
  (mirrors.endAttempt _ _).settle (owned.still rfl rfl rfl) _ _

theorem start (mirrors : Mirrors host tokens whole part) (owned : Owned host tokens whole flight) :
    Mirrors host tokens (whole.start flight) (part.start flight) := by
  unfold World.start Preparation.consulted
  rw [mirrors.config, mirrors.now]
  split
  · exact (mirrors.note rfl).put (owned.still rfl rfl rfl)
  · exact mirrors.put (owned.still rfl rfl rfl)

/-- The host is open in both worlds or in neither. -/
theorem check (mirrors : Mirrors host tokens whole part) (owned : Owned host tokens whole flight)
    (answers : (part.breaker.isOpen flight.host part.now).1 =
      (whole.breaker.isOpen flight.host whole.now).1) (made : Nat) :
    Mirrors host tokens (whole.check flight made) (part.check flight made) := by
  have asked := mirrors.sharing whole.gate part.gate
    (whole.breaker.isOpen flight.host whole.now).2 (part.breaker.isOpen flight.host part.now).2
  unfold World.check
  simp only [answers]
  split
  · exact (asked.note rfl).finish (owned.still rfl rfl rfl) _
  · exact (asked.note rfl).put (owned.still rfl rfl rfl)

theorem begin (mirrors : Mirrors host tokens whole part) (owned : Owned host tokens whole flight)
    (attempt : Nat) :
    Mirrors host tokens (whole.begin flight attempt) (part.begin flight attempt) := by
  unfold World.begin
  simp only [mirrors.now]
  -- The calls differ in the number of slots in flight.
  refine put (note mirrors ?_) (owned.still rfl rfl rfl)
  rfl

/-- Both gates have a free slot. -/
theorem enter (mirrors : Mirrors host tokens whole part) (owned : Owned host tokens whole flight)
    (free : (whole.gate.enter flight.id).1 = .admitted)
    (otherFree : (part.gate.enter flight.id).1 = .admitted) (attempt : Nat) :
    Mirrors host tokens (whole.enter flight attempt) (part.enter flight attempt) := by
  unfold World.enter
  rw [mirrors.isCancelled_eq owned]
  split
  · exact mirrors.settle owned _ _
  · simp only [free, otherFree, welcome]
    exact (mirrors.sharing (whole.gate.enter flight.id).2 (part.gate.enter flight.id).2
      whole.breaker part.breaker).begin (owned.still rfl rfl rfl) attempt

theorem attend (mirrors : Mirrors host tokens whole part) (owned : Owned host tokens whole flight)
    (exchange : Exchange) :
    Mirrors host tokens (whole.attend flight exchange) (part.attend flight exchange) := by
  unfold World.attend
  rw [mirrors.isCancelled_eq owned]
  split
  · exact (mirrors.endAttempt _ _).settle (owned.still rfl rfl rfl) _ _
  · exact mirrors.put (owned.still rfl rfl rfl)

theorem resume (mirrors : Mirrors host tokens whole part) (owned : Owned host tokens whole flight)
    (made wake : Nat) :
    Mirrors host tokens (whole.resume flight made wake) (part.resume flight made wake) := by
  unfold World.resume
  rw [mirrors.isCancelled_eq owned, mirrors.now]
  split
  · exact mirrors.finish owned _
  · split
    · exact mirrors.put (owned.still rfl rfl rfl)
    · exact mirrors

/-- A request that does not wait at the gate goes on in both worlds alike. -/
theorem poll (mirrors : Mirrors host tokens whole part) (owned : Owned host tokens whole flight)
    (answers : (part.breaker.isOpen flight.host part.now).1 =
      (whole.breaker.isOpen flight.host whole.now).1)
    (free : (whole.gate.enter flight.id).1 = .admitted)
    (otherFree : (part.gate.enter flight.id).1 = .admitted)
    (unqueued : flight.stage.isQueued = false) :
    Mirrors host tokens (whole.poll flight) (part.poll flight) := by
  unfold World.poll
  cases stage : flight.stage with
  | submitted => exact mirrors.start owned
  | checking made => exact mirrors.check owned answers made
  | entering attempt => exact mirrors.enter owned free otherFree attempt
  | queued attempt => simp [stage, Stage.isQueued] at unqueued
  | exchanging exchange => exact mirrors.attend owned exchange
  | pausing made wake => exact mirrors.resume owned made wake
  | finished result => exact mirrors
  | dropped => exact mirrors

theorem notify (mirrors : Mirrors host tokens whole part) (owned : Owned host tokens whole flight)
    (notice : Notice) :
    Mirrors host tokens (whole.notify flight notice) (part.notify flight notice) := by
  unfold World.notify
  split
  · exact mirrors.put (owned.still rfl rfl rfl)
  · exact mirrors

theorem pend (mirrors : Mirrors host tokens whole part) (owned : Owned host tokens whole flight) :
    Mirrors host tokens (whole.pend flight) (part.pend flight) := by
  have rests : ∀ exchange, Mirrors host tokens
      (whole.put { flight with stage := .exchanging exchange })
      (part.put { flight with stage := .exchanging exchange }) :=
    fun exchange => mirrors.put (owned.still rfl rfl rfl)
  unfold World.pend
  rw [mirrors.now]
  split
  · split
    · split
      · split
        · exact mirrors.conclude owned _ _
        · exact rests _
      · exact rests _
    · exact mirrors
  · exact mirrors

theorem complete (mirrors : Mirrors host tokens whole part)
    (owned : Owned host tokens whole flight) (answer : Outcome) :
    Mirrors host tokens (whole.complete flight answer) (part.complete flight answer) := by
  unfold World.complete
  split
  · split
    · exact mirrors.conclude owned _ _
    · exact mirrors
  · exact mirrors

theorem drop (mirrors : Mirrors host tokens whole part) (owned : Owned host tokens whole flight) :
    Mirrors host tokens (whole.drop flight) (part.drop flight) := by
  unfold World.drop
  split
  · exact (mirrors.sharing _ _ whole.breaker part.breaker).put
      (owned.still rfl rfl rfl)
  · exact (mirrors.endAttempt _ _).put (owned.still rfl rfl rfl)
  · exact mirrors
  · exact mirrors.put (owned.still rfl rfl rfl)

/-! ### Steps -/

/-- A request to the host is handed in, in both worlds. -/
theorem submit (mirrors : Mirrors host tokens whole part) (id : Nat) (request : Request)
    (watcher : Option Handler) (own : whole.Own host id)
    (fresh : whole.flight? id = none → HostKey.ofUrl request.url = host ∧
      ∀ token, request.options.cancellation = some token → token ∈ tokens) :
    Mirrors host tokens (whole.step (.submit id request watcher))
      (part.step (.submit id request watcher)) := by
  have noted : Mirrors host tokens (whole.note (.submitted id request.method request.url))
      (part.note (.submitted id request.method request.url)) := mirrors.note rfl
  simp only [World.step, mirrors.flight?_eq own]
  split
  · exact mirrors
  · rename_i absent
    obtain ⟨here, wielded⟩ := fresh (Option.not_isSome_iff_eq_none.1 absent)
    exact
      { noted with
        flights := by
          have new : ({ id, request, watcher : Flight }.host == host) = true := beq_iff_eq.2 here
          simp [mirrors.flights, List.filter_append, new]
        wielded := by
          intro flight member
          rcases List.mem_append.1 member with old | new
          · exact mirrors.wielded flight old
          · rw [List.mem_singleton.1 new]
            exact wielded
        tales := fun other ownAfter => noted.tales other fun flight member =>
          ownAfter flight (List.mem_append_left _ member) }

/-- A request to another host is handed in, in the first world. -/
theorem submitElsewhere (mirrors : Mirrors host tokens whole part) (id : Nat) (request : Request)
    (watcher : Option Handler)
    (fresh : whole.flight? id = none → HostKey.ofUrl request.url ≠ host) :
    Mirrors host tokens (whole.step (.submit id request watcher)) part := by
  simp only [World.step]
  split
  · exact mirrors
  · rename_i absent
    have elsewhere := fresh (Option.not_isSome_iff_eq_none.1 absent)
    exact
      { mirrors with
        flights := by
          have new : ({ id, request, watcher : Flight }.host == host) = false :=
            beq_eq_false_iff_ne.2 elsewhere
          simp [mirrors.flights, List.filter_append, new]
        tales := by
          intro other own
          have differ : id ≠ other := fun same =>
            elsewhere (own { id, request, watcher } (by simp) same)
          have before := mirrors.tales other fun flight member =>
            own flight (List.mem_append_left _ member)
          have still := ownTale_note whole (.submitted id request.method request.url) other
          rw [if_neg (by simpa [Signal.id?] using differ), List.append_nil] at still
          exact before.trans still.symm }

/-- A turn of a request to another host, in the first world, changes nothing for the host. -/
theorem turnElsewhere (mirrors : Mirrors host tokens whole part)
    (elsewhere : ∀ other ∈ whole.flights, other.id = flight.id → other.host ≠ host)
    (member : flight ∈ whole.flights) {change : Change} (turn : Turn whole flight change) :
    Mirrors host tokens (whole.apply change) part := by
  have away : change.flight.host ≠ host := turn.host_eq ▸ elsewhere flight member rfl
  exact
    { mirrors with
      flights := by
        have same : ∀ other ∈ whole.flights,
            ((if other.id = change.flight.id then change.flight else other).host == host) =
              (other.host == host) := by
          intro other present
          split
          · rename_i replaced
            have differs := elsewhere other present (replaced.trans turn.id_eq)
            rw [beq_eq_false_iff_ne.2 away, beq_eq_false_iff_ne.2 differs]
          · rfl
        have still : ∀ other ∈ whole.flights.filter (·.host == host),
            (if other.id = change.flight.id then change.flight else other) = other := by
          intro other present
          obtain ⟨member, here⟩ := List.mem_filter.1 present
          exact if_neg fun replaced =>
            elsewhere other member (replaced.trans turn.id_eq) (beq_iff_eq.1 here)
        simp only [World.apply, World.put, List.filter_map, mirrors.flights]
        exact ((congrArg (List.map _) (List.filter_congr same)).trans
          ((List.map_congr_left still).trans (List.map_id' _))).symm
      tales := by
        intro id own
        have replaced := (mem_flights_apply whole change change.flight).2
          (.inl ⟨rfl, flight, member, turn.id_eq.symm⟩)
        have differ : id ≠ flight.id := fun same =>
          away (own _ replaced (turn.id_eq.trans same.symm))
        have before := mirrors.tales id fun other present named => own other
          ((mem_flights_apply whole change other).2 (.inr ⟨present, by
            rw [named, turn.id_eq]
            exact differ⟩)) named
        rw [before, ownTale, ownTale, tale_apply_of_ne turn differ]
      log := by
        rcases turn.accounts with ⟨log, _⟩ | ⟨log, _⟩ | ⟨_, _, _, log, _⟩
        · rw [log, mirrors.log]
        · rw [log, mirrors.log]
        · rw [log, FailureLog.record_other _ (elsewhere flight member rfl).symm, mirrors.log] }

/-- A token is cancelled in both worlds. -/
theorem cancel (mirrors : Mirrors host tokens whole part) (token : Token) :
    Mirrors host tokens (whole.step (.cancel token)) (part.step (.cancel token)) := by
  obtain ⟨_, same, cancelled⟩ := whole.step_cancel token
  obtain ⟨_, otherSame, otherCancelled⟩ := part.step_cancel token
  rw [same, otherSame]
  exact
    { mirrors with
      cancelled := fun other member => by
        rw [cancelled, otherCancelled, mirrors.cancelled other member] }

/-- A token that no request to the host has is cancelled in the first world. -/
theorem cancelElsewhere (mirrors : Mirrors host tokens whole part) {token : Token}
    (elsewhere : token ∉ tokens) :
    Mirrors host tokens (whole.step (.cancel token)) part := by
  obtain ⟨_, same, cancelled⟩ := whole.step_cancel token
  rw [same]
  exact
    { mirrors with
      cancelled := fun other member => by
        have differ : other ≠ token := fun named => elsewhere (named ▸ member)
        rw [cancelled, mirrors.cancelled other member, or_iff_left differ] }

/-- A function of the engine is applied to the same request in both worlds. -/
theorem onFlight (mirrors : Mirrors host tokens whole part) {id : Nat} (own : whole.Own host id)
    (action : World → Flight → World)
    (keeps : ∀ flight ∈ whole.flights, Owned host tokens whole flight →
      Mirrors host tokens (action whole flight) (action part flight)) :
    Mirrors host tokens (whole.onFlight id action) (part.onFlight id action) := by
  unfold World.onFlight
  rw [mirrors.flight?_eq own]
  cases found : whole.flight? id with
  | none => exact mirrors
  | some flight => exact keeps flight (mem_of_flight? found).1 (mirrors.owned own found)

/-- **A step of a request to the host keeps the relation**, if breakers and gates answer alike. -/
theorem step (mirrors : Mirrors host tokens whole part) {label : Label} {id : Nat}
    (addressed : label.id? = some id) (own : whole.Own host id)
    (fresh : ∀ request watcher, label = .submit id request watcher → whole.flight? id = none →
      HostKey.ofUrl request.url = host ∧
        ∀ token, request.options.cancellation = some token → token ∈ tokens)
    (answers : (part.breaker.isOpen host part.now).1 = (whole.breaker.isOpen host whole.now).1)
    (free : ∀ taker, (whole.gate.enter taker).1 = .admitted)
    (otherFree : ∀ taker, (part.gate.enter taker).1 = .admitted)
    (unqueued : ∀ flight ∈ whole.flights, flight.stage.isQueued = false) :
    Mirrors host tokens (whole.step label) (part.step label) := by
  cases label with
  | submit taken request watcher =>
      obtain rfl : taken = id := Option.some.inj addressed
      exact mirrors.submit taken request watcher own (fresh request watcher rfl)
  | poll taken =>
      obtain rfl : taken = id := Option.some.inj addressed
      exact mirrors.onFlight own World.poll fun flight member owned =>
        mirrors.poll owned (by rw [owned.here]; exact answers) (free flight.id)
          (otherFree flight.id) (unqueued flight member)
  | notify taken notice =>
      obtain rfl : taken = id := Option.some.inj addressed
      exact mirrors.onFlight own (World.notify · · notice) fun flight _ owned =>
        mirrors.notify owned notice
  | pend taken =>
      obtain rfl : taken = id := Option.some.inj addressed
      exact mirrors.onFlight own World.pend fun flight _ owned => mirrors.pend owned
  | complete taken answer =>
      obtain rfl : taken = id := Option.some.inj addressed
      exact mirrors.onFlight own (World.complete · · answer) fun flight _ owned =>
        mirrors.complete owned answer
  | drop taken =>
      obtain rfl : taken = id := Option.some.inj addressed
      exact mirrors.onFlight own World.drop fun flight _ owned => mirrors.drop owned
  | _ => cases addressed

/-- **A step of a request to another host keeps the relation** although the second world does not
take it. -/
theorem stepElsewhere (mirrors : Mirrors host tokens whole part) {label : Label} {id : Nat}
    (addressed : label.id? = some id)
    (elsewhere : ∀ other ∈ whole.flights, other.id = id → other.host ≠ host)
    (fresh : ∀ request watcher, label = .submit id request watcher → whole.flight? id = none →
      HostKey.ofUrl request.url ≠ host) :
    Mirrors host tokens (whole.step label) part := by
  rcases step_eq_onFlight addressed with ⟨request, watcher, rfl⟩ | ⟨action, turns, same⟩
  · exact mirrors.submitElsewhere id request watcher (fresh request watcher rfl)
  · rw [same, World.onFlight]
    cases found : whole.flight? id with
    | none => exact mirrors
    | some flight =>
        obtain ⟨member, rfl⟩ := mem_of_flight? found
        rcases turns whole flight with idle | ⟨change, turn, after⟩
        · simp only [idle]
          exact mirrors
        · simp only [after]
          exact mirrors.turnElsewhere elsewhere member turn

theorem advance (mirrors : Mirrors host tokens whole part) (span : Nat) :
    Mirrors host tokens (whole.step (.advance span)) (part.step (.advance span)) :=
  { mirrors with
    now := congrArg (· + span) mirrors.now }

end Mirrors

end World

end ResilientHttp
