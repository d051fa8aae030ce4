import ResilientHttp.Proofs.Engine.Ledger
import ResilientHttp.Proofs.Engine.Rounds
import ResilientHttp.Proofs.Engine.Slots
import Mathlib.Order.Bounds.Defs

/-!
# What the journal tells of a request

The tale of a request is the part of the journal that is about it, oldest first. Requests share a
breaker, a gate and a clock, and their signals stand in the journal in any order, but a turn of one
request adds nothing to the tale of another (`World.tale_apply_of_ne`). So the tale can be followed
alone, stage by stage: `Told` says for each stage what the tale of a request looks like that is
there, and every turn leads from such a tale to such a tale (`Told.turn`).

Hence the tales of all requests that have their result are of one shape (`World.finished_tale`), and
nothing that other requests do can give them another. A pause is as long as the strategy says, and
the request goes on from the first tick of the timer that is not before its end.
-/

set_option autoImplicit false

namespace ResilientHttp

namespace Stage

/-- The attempts that were made and the end of the pause, if there is one. -/
def pause? : Stage → Option (Nat × Nat)
  | pausing made wake => some (made, wake)
  | _ => none

theorem result?_eq_some_iff {stage : Stage} {result : Outcome} :
    stage.result? = some result ↔ stage = .finished result := by
  cases stage <;> simp [result?]

theorem pause?_eq_some_iff {stage : Stage} {made wake : Nat} :
    stage.pause? = some (made, wake) ↔ stage = .pausing made wake := by
  cases stage <;> simp [pause?]

end Stage

namespace World

/-- What the journal says of a request, oldest first. -/
def tale (world : World) (id : Nat) : List (Nat × Signal) :=
  (world.journal.filter fun entry => entry.2.id? == some id).reverse

variable {world : World} {flight : Flight} {change : Change}

/-- A signal is added to the tale of the request that it is about. -/
theorem tale_note (world : World) {signal : Signal} {id : Nat} (about : signal.id? = some id) :
    (world.note signal).tale id = world.tale id ++ [(world.now, signal)] := by
  simp [tale, note, about]

/-- A signal leaves the tales of all others alone. -/
theorem tale_note_of_ne (world : World) {signal : Signal} {id : Nat}
    (other : signal.id? ≠ some id) : (world.note signal).tale id = world.tale id := by
  simp [tale, note, other]

/-- A turn adds its signals to the tale of its request. -/
theorem tale_apply (turn : Turn world flight change) :
    (world.apply change).tale flight.id =
      world.tale flight.id ++ change.signals.map fun signal => (world.now, signal) := by
  have all : ((change.signals.map fun signal => (world.now, signal)).reverse.filter
      fun entry => entry.2.id? == some flight.id) =
        (change.signals.map fun signal => (world.now, signal)).reverse := by
    refine List.filter_eq_self.2 fun entry member => ?_
    obtain ⟨signal, present, rfl⟩ := List.mem_map.1 (List.mem_reverse.1 member)
    exact beq_iff_eq.2 (turn.id?_of_mem_signals signal present)
  rw [tale, journal_apply, List.filter_append, all, List.reverse_append, List.reverse_reverse]
  rfl

/-- A turn leaves the tales of all other requests alone. -/
theorem tale_apply_of_ne (turn : Turn world flight change) {id : Nat} (other : id ≠ flight.id) :
    (world.apply change).tale id = world.tale id := by
  have nothing : ((change.signals.map fun signal => (world.now, signal)).reverse.filter
      fun entry => entry.2.id? == some id) = [] := by
    refine List.filter_eq_nil_iff.2 fun entry member about => other ?_
    obtain ⟨signal, present, rfl⟩ := List.mem_map.1 (List.mem_reverse.1 member)
    have mine := turn.id?_of_mem_signals signal present
    exact Option.some.inj ((beq_iff_eq.1 about).symm.trans mine)
  rw [tale, journal_apply, List.filter_append, nothing, List.nil_append]
  rfl

end World

/-! ## The tale at each stage -/

/-- The opening of a tale. -/
def Flight.opening (flight : Flight) (submitted : Nat) : List (Nat × Signal) :=
  (submitted, .submitted flight.id flight.request.method flight.request.url) ::
    (Preparation.consulted flight.request).map fun url => (flight.started, .consulted flight.id url)

/-- The request was looked at, and its tale consists of the opening and of rounds that fit. -/
structure Begun (config : Config) (flight : Flight) (rounds : Rounds) (tale : List (Nat × Signal)) :
    Prop where
  prepared : flight.prepared = prepare config flight.request
  told : ∃ submitted ≤ flight.started,
    tale = flight.opening submitted ++ rounds.signals config flight.id flight.request 1
  fit : rounds.Fit flight.request 1 flight.started

namespace Begun

variable {config : Config} {flight : Flight} {rounds : Rounds} {tale : List (Nat × Signal)}

/-- What was told before is not changed by a new stage. -/
theorem onward (begun : Begun config flight rounds tale) (stage : Stage) :
    Begun config (flight.onward stage) rounds tale :=
  ⟨begun.prepared, begun.told, begun.fit⟩

/-- One more round that fits. -/
theorem concat (begun : Begun config flight rounds tale) {round : Round}
    (fits : round.Fits flight.request (rounds.length + 1) (rounds.ready flight.started)) :
    Begun config flight (rounds ++ [round])
      (tale ++ round.signals config flight.id flight.request (rounds.length + 1)) where
  prepared := begun.prepared
  told := by
    obtain ⟨submitted, earlier, rfl⟩ := begun.told
    refine ⟨submitted, earlier, ?_⟩
    rw [Rounds.signals_concat, Nat.add_comm 1, List.append_assoc]
  fit := begun.fit.concat (by rwa [Nat.add_comm 1])

end Begun

/-- An attempt passed its check, and has no slot yet. -/
def Sent (config : Config) (flight : Flight) (now attempt : Nat) (tale : List (Nat × Signal)) :
    Prop :=
  ∃ (rounds : Rounds) (past : List (Nat × Signal)) (checked : Nat),
    Begun config flight rounds past ∧ attempt = rounds.length + 1 ∧
    rounds.ready flight.started ≤ checked ∧ checked ≤ now ∧
    tale = past ++ [(checked, .sending flight.id attempt flight.host)]

/-- An attempt came to the transport. -/
def Sounded (config : Config) (flight : Flight) (now attempt : Nat) (tale : List (Nat × Signal)) :
    Prop :=
  ∃ (rounds : Rounds) (past : List (Nat × Signal)) (passage : Passage),
    Begun config flight rounds past ∧ attempt = rounds.length + 1 ∧
    passage.Fits (rounds.ready flight.started) ∧ passage.called ≤ now ∧
    tale = past ++ passage.signals config flight.id flight.request attempt

/-- The request has its result. -/
def Ended (config : Config) (flight : Flight) (result : Outcome) (tale : List (Nat × Signal)) :
    Prop :=
  ∃ (rounds : Rounds) (past : List (Nat × Signal)) (ending : Ending),
    Begun config flight rounds past ∧
    ending.Fits flight.request flight.started rounds ∧ result = ending.result flight.request ∧
    tale = past ++
      ending.signals config flight.id flight.request flight.started (rounds.length + 1)

/-- What the tale of a request looks like at each stage. -/
def Told (config : Config) (flight : Flight) (now : Nat) (tale : List (Nat × Signal)) :
    Stage → Prop
  | .submitted =>
      ∃ submitted ≤ now,
        tale = [(submitted, .submitted flight.id flight.request.method flight.request.url)]
  | .checking made =>
      ∃ rounds, Begun config flight rounds tale ∧ made = rounds.length ∧
        rounds.ready flight.started ≤ now
  | .entering attempt => Sent config flight now attempt tale
  | .queued attempt => Sent config flight now attempt tale
  | .exchanging exchange => Sounded config flight now exchange.attempt tale
  | .pausing made wake =>
      ∃ rounds round, Begun config flight (rounds ++ [round]) tale ∧ made = rounds.length + 1 ∧
        round.ended ≤ now ∧ wake = Clock.deadline round.ended round.delay
  | .finished result => Ended config flight result tale
  | .dropped => True

/-! ## What a turn does to the tale -/

section Turns

variable {config : Config} {world : World} {flight : Flight} {change : Change}
  {tale : List (Nat × Signal)} {attempt : Nat}

/-- An attempt that waited longer for its slot. -/
theorem Sent.onward {now : Nat} (sent : Sent config flight now attempt tale) (stage : Stage) :
    Sent config (flight.onward stage) now attempt tale := by
  obtain ⟨rounds, past, checked, begun, number, ready, order, told⟩ := sent
  exact ⟨rounds, past, checked, begun.onward stage, number, ready, order, told⟩

/-- An attempt that got no slot ends the request. -/
theorem Sent.bar {now : Nat} (sent : Sent config flight now attempt tale) {failure : Failure}
    (barring : failure = .cancelled ∨ failure = .gateClosed) :
    Ended config (flight.onward (.finished (.error failure))) (.error failure)
      (tale ++ [(now, flight.verdict now (.error failure))]) := by
  obtain ⟨rounds, past, checked, begun, rfl, ready, order, rfl⟩ := sent
  refine ⟨rounds, past, .barred checked now failure, begun.onward _, ⟨ready, order, barring⟩, rfl,
    ?_⟩
  rw [List.append_assoc]
  rfl

/-- An attempt that gets a slot comes to the transport. -/
theorem Sent.call {now : Nat} (sent : Sent config flight now attempt tale) (watched : Bool)
    (inFlight : Nat) (stage : Stage) :
    Sounded config (flight.onward stage) now attempt
      (tale ++ [(now, .called flight.id attempt flight.prepared watched inFlight)]) := by
  obtain ⟨rounds, past, checked, begun, number, ready, order, rfl⟩ := sent
  refine ⟨rounds, past, ⟨checked, now, watched, inFlight⟩, begun.onward stage, number,
    ⟨ready, order⟩, Nat.le_refl now, ?_⟩
  rw [begun.prepared, List.append_assoc]
  rfl

/-- An exchange with an outcome that no other attempt follows ends the request. -/
theorem Sounded.answer {now : Nat} (sounded : Sounded config flight now attempt tale)
    (outcome result : Outcome)
    (last : 0 < attempt → Outcome.isRetryable outcome = true →
      flight.request.mostAttempts ≤ attempt)
    (settled : result =
      if Outcome.isFinal outcome then outcome else validate flight.request.options outcome) :
    Ended config (flight.onward (.finished result)) result
      (tale ++ (.ended flight.id attempt (some outcome) ::
        (flight.recordings attempt outcome ++ [flight.verdict now result])).map
          fun signal => (now, signal)) := by
  obtain ⟨rounds, past, passage, begun, rfl, fits, called, rfl⟩ := sounded
  subst settled
  refine ⟨rounds, past, .answered passage now outcome, begun.onward _,
    ⟨fits, called, last (Nat.succ_pos _)⟩, rfl, ?_⟩
  simp only [Ending.signals, Ending.approach, Flight.recordings, List.append_assoc]
  split <;> rfl

/-- No other attempt follows a retryable outcome when as many were made as the request may make. -/
theorem mostAttempts_le_of_nextDelay {outcome : Outcome}
    (none : World.nextDelay flight attempt outcome = none) (positive : 0 < attempt)
    (retryable : Outcome.isRetryable outcome = true) : flight.request.mostAttempts ≤ attempt := by
  rw [World.nextDelay, if_pos retryable, Backoff.nextDelay_eq_none_iff] at none
  rw [← flight.request.maxAttempts_ofStrategy]
  exact none.resolve_left (Nat.ne_of_gt positive)

/-- **A turn of a request leads from a tale that its stage calls for to one that the new stage calls
for.** -/
theorem Told.turn (same : world.config = config)
    (told : Told config flight world.now tale flight.stage) (turn : Turn world flight change) :
    Told config change.flight world.now
      (tale ++ change.signals.map fun signal => (world.now, signal)) change.flight.stage := by
  cases turn with
  | start stage =>
      rw [stage] at told
      obtain ⟨submitted, earlier, rfl⟩ := told
      refine ⟨[], ⟨?_, ⟨submitted, earlier, ?_⟩, trivial⟩, rfl, Nat.le_refl _⟩
      · rw [same]
        rfl
      · simp [Flight.opening, Rounds.signals, World.moving]
  | reject stage opened =>
      rw [stage] at told
      obtain ⟨rounds, begun, rfl, ready⟩ := told
      exact ⟨rounds, tale, .rejected world.now, begun.onward _, ready, rfl, rfl⟩
  | pass stage closed =>
      rw [stage] at told
      obtain ⟨rounds, begun, rfl, ready⟩ := told
      exact ⟨rounds, tale, world.now, begun.onward _, rfl, ready, Nat.le_refl _, rfl⟩
  | retreat stage cancelled =>
      rw [stage] at told
      exact told.bar (.inl rfl)
  | refuse stage live answer =>
      rw [stage] at told
      exact told.bar (.inr rfl)
  | enter stage live answer =>
      rw [stage] at told
      exact told.call _ _ _
  | queue stage live answer =>
      rw [stage] at told
      rw [List.map_nil, List.append_nil]
      exact told.onward _
  | withdraw stage cancelled =>
      rw [stage] at told
      exact told.bar (.inl rfl)
  | expel stage live answer =>
      rw [stage] at told
      exact told.bar (.inr rfl)
  | claim stage live answer =>
      rw [stage] at told
      exact told.call _ _ _
  | wait stage live answer =>
      rw [stage] at told
      rw [List.map_nil, List.append_nil]
      exact told.onward _
  | sever stage cancelled =>
      rw [stage] at told
      obtain ⟨rounds, past, passage, begun, number, fits, called, rfl⟩ := told
      refine ⟨rounds, past, .severed passage world.now, begun.onward _, ⟨fits, called⟩, rfl, ?_⟩
      rw [number]
      simp only [Ending.signals, Ending.approach, List.append_assoc]
      rfl
  | tend stage seen guard attended =>
      rw [stage] at told
      rw [World.signals_moving, List.map_nil, List.append_nil]
      obtain ⟨rounds, past, passage, begun, number, fits, called, rfl⟩ := told
      exact ⟨rounds, past, passage, ⟨begun.prepared, begun.told, begun.fit⟩, number, fits, called,
        rfl⟩
  | @surrender exchange stage outcome final =>
      rw [stage] at told
      -- A final outcome does not count against the host, so the end and the result stand together.
      have hopeless := Outcome.isRetryable_of_isFinal final
      have silent : flight.recordings exchange.attempt outcome = [] := by
        rw [Flight.recordings, ← Outcome.isRetryable_eq_isHostFailure, hopeless]
        rfl
      have ended := told.answer outcome outcome
        (fun _ retryable => absurd (hopeless.symm.trans retryable) Bool.false_ne_true)
        (if_pos final).symm
      rw [silent] at ended
      exact ended
  | @retry exchange stage outcome retryable delay remaining =>
      rw [stage] at told
      obtain ⟨rounds, past, passage, begun, number, fits, called, rfl⟩ := told
      rw [number] at remaining ⊢
      -- What is worth another attempt counts against the host, so every round has its record.
      have recorded : flight.recordings (rounds.length + 1) outcome =
          [.recorded flight.id (rounds.length + 1) flight.host] := by
        rw [Flight.recordings, ← Outcome.isRetryable_eq_isHostFailure, retryable]
        rfl
      let round : Round := ⟨passage, world.now, outcome, delay⟩
      have last : round.Fits flight.request (rounds.length + 1) (rounds.ready flight.started) :=
        ⟨fits, called, (Outcome.isRetryable_iff outcome).1 retryable, remaining⟩
      refine ⟨rounds, round, ?_, rfl, Nat.le_refl _, rfl⟩
      rw [recorded, List.append_assoc]
      exact (begun.concat last).onward _
  | resolve stage outcome notFinal last =>
      rw [stage] at told
      exact told.answer outcome _ (mostAttempts_le_of_nextDelay last) (by rw [notFinal]; rfl)
  | quit stage cancelled =>
      rw [stage] at told
      obtain ⟨rounds, round, begun, rfl, ended, rfl⟩ := told
      have last : (rounds ++ [round]).getLast? = some round := by simp
      exact ⟨rounds ++ [round], tale, .interrupted world.now, begun.onward _, ⟨round, last, ended⟩,
        rfl, rfl⟩
  | resume stage live due =>
      rw [stage] at told
      obtain ⟨rounds, round, begun, rfl, ended, rfl⟩ := told
      rw [World.signals_moving, List.map_nil, List.append_nil]
      refine ⟨rounds ++ [round], begun.onward _, ?_, ?_⟩
      · rw [List.length_append, List.length_singleton]
      · rw [World.flight_moving, Flight.started_onward, Rounds.ready_concat]
        exact of_decide_eq_true due
  | _ => trivial

/-- Time that passes does not change what was told. -/
theorem Told.later {now later : Nat} (order : now ≤ later) {stage : Stage}
    (told : Told config flight now tale stage) : Told config flight later tale stage := by
  have sent : ∀ attempt, Sent config flight now attempt tale →
      Sent config flight later attempt tale := by
    rintro attempt ⟨rounds, past, checked, begun, number, ready, before, rfl⟩
    exact ⟨rounds, past, checked, begun, number, ready, before.trans order, rfl⟩
  cases stage with
  | submitted =>
      obtain ⟨submitted, before, rfl⟩ := told
      exact ⟨submitted, before.trans order, rfl⟩
  | checking made =>
      obtain ⟨rounds, begun, number, ready⟩ := told
      exact ⟨rounds, begun, number, ready.trans order⟩
  | entering attempt => exact sent attempt told
  | queued attempt => exact sent attempt told
  | exchanging exchange =>
      obtain ⟨rounds, past, passage, begun, number, fits, called, rfl⟩ := told
      exact ⟨rounds, past, passage, begun, number, fits, called.trans order, rfl⟩
  | pausing made wake =>
      obtain ⟨rounds, round, begun, number, ended, rfl⟩ := told
      exact ⟨rounds, round, begun, number, ended.trans order, rfl⟩
  | finished result => exact told
  | dropped => trivial

end Turns

/-! ## The tales of a client -/

namespace World

/-- Every request has the tale that its stage calls for, and the journal is about nobody else. -/
structure Narrated (config : Config) (world : World) : Prop where
  config_eq : world.config = config
  known : ∀ entry ∈ world.journal, ∀ id, entry.2.id? = some id →
    ∃ flight ∈ world.flights, flight.id = id
  told : ∀ flight ∈ world.flights,
    Told config flight world.now (world.tale flight.id) flight.stage

theorem narrated_new (config : Config) : (new config).Narrated config where
  config_eq := rfl
  known := fun _ member => absurd member (List.not_mem_nil)
  told := fun _ member => absurd member (List.not_mem_nil)

namespace Narrated

variable {config : Config} {world : World} {flight : Flight} {change : Change}

/-- Nothing was told of a request that was not handed in. -/
theorem tale_eq_nil (narrated : world.Narrated config) {id : Nat}
    (fresh : ∀ flight ∈ world.flights, flight.id ≠ id) : world.tale id = [] := by
  rw [tale, List.reverse_eq_nil_iff, List.filter_eq_nil_iff]
  intro entry member about
  obtain ⟨flight, present, same⟩ := narrated.known entry member id (beq_iff_eq.1 about)
  exact fresh flight present same

theorem submit (narrated : world.Narrated config) (id : Nat) (request : Request)
    (watcher : Option Handler) (fresh : ∀ flight ∈ world.flights, flight.id ≠ id) :
    Narrated config
      { world.note (.submitted id request.method request.url) with
        flights := world.flights ++ [{ id, request, watcher }] } where
  config_eq := narrated.config_eq
  known := by
    intro entry member other about
    rcases List.mem_cons.1 member with rfl | older
    · refine ⟨_, List.mem_append_right _ (List.mem_singleton_self _), ?_⟩
      exact Option.some.inj about
    · obtain ⟨flight, present, same⟩ := narrated.known entry older other about
      exact ⟨flight, List.mem_append_left _ present, same⟩
  told := by
    intro flight member
    rcases List.mem_append.1 member with older | newest
    · have other : Signal.id? (.submitted id request.method request.url) ≠ some flight.id :=
        fun about => fresh flight older (Option.some.inj about).symm
      exact (tale_note_of_ne world other).symm ▸ narrated.told flight older
    · obtain rfl := List.mem_singleton.1 newest
      refine ⟨world.now, Nat.le_refl _, ?_⟩
      refine (tale_note world rfl).trans ?_
      rw [narrated.tale_eq_nil fresh]
      rfl

theorem apply (narrated : world.Narrated config) (member : flight ∈ world.flights)
    (turn : Turn world flight change) : (world.apply change).Narrated config where
  config_eq := narrated.config_eq
  known := by
    have present : ∀ id, (∃ flight ∈ world.flights, flight.id = id) →
        ∃ flight ∈ (world.apply change).flights, flight.id = id := by
      intro id
      simp only [← List.mem_map]
      rw [ids_apply]
      exact fun there => there
    intro entry member id about
    rw [journal_apply, List.mem_append, List.mem_reverse, List.mem_map] at member
    rcases member with ⟨signal, new, rfl⟩ | older
    · have mine := (turn.id?_of_mem_signals signal new).symm.trans about
      exact present id ⟨flight, member, Option.some.inj mine⟩
    · exact present id (narrated.known entry older id about)
  told := by
    intro other present
    rcases (mem_flights_apply world change other).1 present with ⟨rfl, _⟩ | ⟨older, differ⟩
    · rw [turn.id_eq, tale_apply turn]
      have further := Told.turn narrated.config_eq (narrated.told flight member) turn
      exact further
    · rw [turn.id_eq] at differ
      rw [tale_apply_of_ne turn differ]
      exact narrated.told other older

theorem move {after : World} (narrated : world.Narrated config) (move : Move world after) :
    after.Narrated config := by
  cases move with
  | idle => exact narrated
  | submit id request watcher fresh => exact narrated.submit id request watcher fresh
  | turn member turn => exact narrated.apply member turn
  | cancel token => exact ⟨narrated.config_eq, narrated.known, narrated.told⟩
  | shutDown =>
      refine ⟨narrated.config_eq, ?_, fun flight member => ?_⟩
      · intro entry member id about
        rcases List.mem_cons.1 member with rfl | older
        · cases about
        · exact narrated.known entry older id about
      · have other : Signal.shutDown.id? ≠ some flight.id := nofun
        exact (tale_note_of_ne world other).symm ▸ narrated.told flight member
  | closeGate => exact ⟨narrated.config_eq, narrated.known, narrated.told⟩
  | ask host => exact ⟨narrated.config_eq, narrated.known, narrated.told⟩
  | advance span =>
      exact ⟨narrated.config_eq, narrated.known, fun flight member =>
        (narrated.told flight member).later (Nat.le_add_right _ span)⟩

end Narrated

/-- The requests of a client have the tales that their stages call for. -/
theorem narrated_run (config : Config) (labels : List Label) :
    ((new config).run labels).Narrated config :=
  invariant config (Narrated config) (narrated_new config)
    (fun _ _ narrated move => narrated.move move) labels

/-- A request that is looked at during its pause: a cancelled one has its result, another goes on to
the check of its host as soon as the timer shows the end of the delay, and no sooner. -/
theorem flight?_poll_pausing {world : World} (nodup : (world.flights.map (·.id)).Nodup)
    {flight : Flight} (member : flight ∈ world.flights) {made wake : Nat}
    (stage : flight.stage = .pausing made wake) :
    (world.step (.poll flight.id)).flight? flight.id =
      some (flight.onward
        (if world.isCancelled flight = true then .finished (.error .cancelled)
        else if Clock.tick wake ≤ world.now then .checking made
        else .pausing made wake)) := by
  simp only [step, onFlight, flight?_of_mem nodup member, poll, stage, resume]
  cases cancelled : world.isCancelled flight with
  | true =>
      have quitting := flight?_apply nodup member (.quit stage cancelled)
      exact quitting
  | false =>
      simp only [Bool.false_eq_true, if_false, Clock.due, decide_eq_true_eq]
      by_cases due : Clock.tick wake ≤ world.now
      · have onward := flight?_apply nodup member (.resume stage cancelled (decide_eq_true due))
        rw [if_pos due, if_pos due]
        exact onward
      · rw [if_neg due, if_neg due, flight?_of_mem nodup member, ← stage]
        rfl

/-- **What becomes of every request.** In every run of a client, whatever the order of its steps:

* The tale of a request that has its result is its opening, in which its source of credentials was
  asked at most once, then rounds, then an ending. Every attempt that came to the transport gave it
  the same prepared request. Every attempt but the last had a retryable outcome, and the next one
  passed its check no earlier than the timer shows the end of the delay. The result is that of the
  ending, and there were no more attempts than the strategy allows.
* A request that pauses waits until the delay after its last attempt is over. When it is looked at
  it goes on from the first tick of the timer that is not before that moment, and not sooner.
* Every check found the host open or closed as the failures before it call for. -/
theorem finished_tale (config : Config) (labels : List Label) :
    let world := (new config).run labels
    (∀ flight ∈ world.flights, ∀ result, flight.stage = .finished result →
      ∃ (submitted : Nat) (rounds : Rounds) (ending : Ending), submitted ≤ flight.started ∧
        world.tale flight.id =
          flight.opening submitted ++ rounds.signals config flight.id flight.request 1 ++
            ending.signals config flight.id flight.request flight.started (rounds.length + 1) ∧
        rounds.Fit flight.request 1 flight.started ∧
        ending.Fits flight.request flight.started rounds ∧
        result = ending.result flight.request ∧
        rounds.length + ending.attempts ≤ flight.request.mostAttempts) ∧
    (∀ flight ∈ world.flights, ∀ made wake, flight.stage = .pausing made wake →
      ∃ (submitted : Nat) (rounds : Rounds) (round : Round), submitted ≤ flight.started ∧
        world.tale flight.id =
          flight.opening submitted ++
            Rounds.signals config flight.id flight.request 1 (rounds ++ [round]) ∧
        Rounds.Fit flight.request 1 flight.started (rounds ++ [round]) ∧
        made = rounds.length + 1 ∧
        wake = round.ended + round.delay.nanos ∧
        IsLeast {moment | Clock.tickNanos ∣ moment ∧ wake ≤ moment} (Clock.tick wake) ∧
        (world.step (.poll flight.id)).flight? flight.id =
          some (flight.onward
            (if world.isCancelled flight = true then .finished (.error .cancelled)
            else if Clock.tick wake ≤ world.now then .checking made
            else .pausing made wake))) ∧
    Checked config.breaker world.journal := by
  intro world
  have narrated := narrated_run config labels
  refine ⟨fun flight member result stage => ?_, fun flight member made wake stage => ?_,
    checked_run config labels⟩
  · have told := narrated.told flight member
    rw [stage] at told
    obtain ⟨rounds, past, ending, begun, fits, settled, whole⟩ := told
    obtain ⟨submitted, earlier, rfl⟩ := begun.told
    exact ⟨submitted, rounds, ending, earlier, whole, begun.fit, fits, settled,
      ending.attempts_le begun.fit⟩
  · have told := narrated.told flight member
    rw [stage] at told
    obtain ⟨rounds, round, begun, number, ended, wakes⟩ := told
    obtain ⟨submitted, earlier, whole⟩ := begun.told
    have first : IsLeast {moment | Clock.tickNanos ∣ moment ∧ wake ≤ moment} (Clock.tick wake) :=
      ⟨⟨Clock.tickNanos_dvd_tick wake, Clock.le_tick wake⟩,
        fun _ shown => Clock.tick_le shown.1 shown.2⟩
    exact ⟨submitted, rounds, round, earlier, whole, begun.fit, number, wakes, first,
      flight?_poll_pausing (orderly_run config labels).nodup member stage⟩

/-! ### A request that pauses

A request that may be attempted twice. Its first answer is a server error, its second a status that
is not accepted. -/

/-- A request that comes to its second attempt after a pause. -/
def pausingRun (delay : Span) : List Label :=
  [.submit 0
      { method := .get, url := plainUrl
        options := { retry := some ⟨2, delay⟩, validStatuses := some [200] } } none,
    .poll 0, .poll 0, .poll 0, .poll 0, .complete 0 (.ok { status := 503 })]

/-- The pause is over, and the second attempt has its answer. -/
def resumedRun (delay : Span) (pause : Nat) : List Label :=
  pausingRun delay ++
    [.advance pause, .poll 0, .poll 0, .poll 0, .poll 0, .complete 0 (.ok { status := 404 })]

/-- The world during a pause of a second. -/
def pausingWorld : World := (new {}).run (pausingRun (Span.ofSeconds 1))

/-- The world after a pause of a second. -/
def resumedWorld : World := (new {}).run (resumedRun (Span.ofSeconds 1) 1000000000)

/-- The last answer decides the result, and the pause before it is as long as it should be. -/
theorem finished_tale_resumedRun :
    (∃ flight ∈ resumedWorld.flights, flight.stage = .finished (.error (.badStatus 404)) ∧
      ∃ (submitted : Nat) (rounds : Rounds) (ending : Ending), submitted ≤ flight.started ∧
        resumedWorld.tale flight.id =
          flight.opening submitted ++ rounds.signals {} flight.id flight.request 1 ++
            ending.signals {} flight.id flight.request flight.started (rounds.length + 1) ∧
        rounds.length + ending.attempts ≤ flight.request.mostAttempts) ∧
    (∃ flight ∈ pausingWorld.flights, flight.stage = .pausing 1 1000000000 ∧
      ∃ (rounds : Rounds) (round : Round), 1 = rounds.length + 1 ∧
        1000000000 = round.ended + round.delay.nanos) := by
  obtain ⟨finished, _, _⟩ := finished_tale {} (resumedRun (Span.ofSeconds 1) 1000000000)
  obtain ⟨_, pausing, _⟩ := finished_tale {} (pausingRun (Span.ofSeconds 1))
  have answered : ∃ flight ∈ resumedWorld.flights,
      flight.stage.result? = some (.error (.badStatus 404)) := by
    decide +kernel
  have paused : ∃ flight ∈ pausingWorld.flights,
      flight.stage.pause? = some (1, 1000000000) := by
    decide +kernel
  refine ⟨?_, ?_⟩
  · obtain ⟨flight, member, answer⟩ := answered
    have stage := Stage.result?_eq_some_iff.1 answer
    obtain ⟨submitted, rounds, ending, earlier, told, _, _, _, few⟩ :=
      finished flight member _ stage
    exact ⟨flight, member, stage, submitted, rounds, ending, earlier, told, few⟩
  · obtain ⟨flight, member, pause⟩ := paused
    have stage := Stage.pause?_eq_some_iff.1 pause
    obtain ⟨_, rounds, round, _, _, _, number, wake, _⟩ := pausing flight member 1 1000000000 stage
    exact ⟨flight, member, stage, rounds, round, number, wake⟩

end World

end ResilientHttp
