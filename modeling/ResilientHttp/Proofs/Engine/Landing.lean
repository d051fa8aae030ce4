import ResilientHttp.Proofs.Engine.Course

/-!
# How exchanges end

While an exchange is looked at, two things can give it an outcome: the transport answers, or the
transport has no answer when the time of the attempt is over (`Exchange.answer?`). The attempt then
lands, and whatever its outcome is, one change of the world follows (`World.concluded`). Every other
step that is addressed to a request in its exchange leaves it there, or ends the exchange without an
outcome (`World.step_of_silence`). Both together are a table of what becomes of a request in its
exchange (`World.exchanged`, `World.flight?_step_exchanging`).

The steps of a run in which an attempt lands are listed with what is known of them then
(`World.landings`). The journal tells of an outcome, of a failure of a host or of another attempt
only when an attempt lands (`World.isAftermath_of_no_landing`).
-/

set_option autoImplicit false

namespace ResilientHttp

theorem Stage.exchange?_eq_some_iff {stage : Stage} {exchange : Exchange} :
    stage.exchange? = some exchange ↔ stage = .exchanging exchange := by
  cases stage <;> simp [Stage.exchange?]

/-- What a step makes of an exchange that is looked at: the answer of the transport, or the failure
of an attempt whose time is over. -/
def Exchange.answer? (exchange : Exchange) (options : Options) (now : Nat) :
    Label → Option Outcome
  | .complete _ answer => if exchange.attended then some answer else none
  | .pend _ =>
      if exchange.attended then
        match exchange.deadline, options.timeout with
        | some deadline, some limit =>
            if Clock.due deadline now then some (.error (Failure.noResponse limit)) else none
        | _, _ => none
      else none
  | _ => none

/-- An answer is that of the transport, or it says that there was none in time. -/
theorem Exchange.answer?_cases {exchange : Exchange} {options : Options} {now : Nat}
    {label : Label} {answer : Outcome}
    (answered : exchange.answer? options now label = some answer) :
    exchange.attended = true ∧
      ((∃ id, label = .complete id answer) ∨
        ∃ id limit, label = .pend id ∧ answer = .error (Failure.noResponse limit)) := by
  cases label with
  | complete id given =>
      simp only [answer?] at answered
      split at answered
      · obtain rfl := Option.some.inj answered
        exact ⟨‹_›, .inl ⟨id, rfl⟩⟩
      · cases answered
  | pend id =>
      simp only [answer?] at answered
      split at answered
      · refine ⟨‹_›, .inr ⟨id, ?_⟩⟩
        split at answered
        · split at answered
          · exact ⟨_, rfl, (Option.some.inj answered).symm⟩
          · cases answered
        · cases answered
      · cases answered
  | _ => cases answered

/-- Nothing gives an outcome to an exchange that is not looked at. -/
theorem Exchange.answer?_of_unattended {exchange : Exchange} (unattended : exchange.attended = false)
    (options : Options) (now : Nat) (label : Label) : exchange.answer? options now label = none := by
  refine Option.eq_none_iff_forall_ne_some.2 fun answer answered => ?_
  cases unattended.symm.trans (Exchange.answer?_cases answered).1

namespace Flight

/-- The stage of a request after an attempt with the given outcome. -/
def landed (flight : Flight) (now attempt : Nat) (outcome : Outcome) : Stage :=
  match World.nextDelay flight attempt outcome with
  | some delay => .pausing attempt (Clock.deadline now delay)
  | none => .finished (validate flight.request.options outcome)

/-- What is told of a request after an attempt with the given outcome was accounted for. -/
def sequel (flight : Flight) (now attempt : Nat) (outcome : Outcome) : Signal :=
  match World.nextDelay flight attempt outcome with
  | some delay => .retrying flight.id attempt flight.request.method outcome delay
  | none => flight.verdict now (validate flight.request.options outcome)

/-- Another attempt follows exactly after an outcome that is worth it, while attempts remain. -/
theorem nextDelay_isSome_iff (flight : Flight) {attempt : Nat} (positive : 0 < attempt)
    (outcome : Outcome) :
    (World.nextDelay flight attempt outcome).isSome = true ↔
      Outcome.isRetryable outcome = true ∧ attempt < flight.request.mostAttempts := by
  unfold World.nextDelay
  cases Outcome.isRetryable outcome with
  | false => simp
  | true =>
      rw [if_pos rfl, Option.isSome_iff_ne_none, ne_eq, backoff, Backoff.nextDelay_eq_none_iff,
        flight.request.maxAttempts_ofStrategy]
      simp only [true_and]
      omega

/-- The stage after an attempt that lands is a pause, if the outcome is worth another attempt and
attempts remain, and otherwise the result. -/
theorem landed_cases (flight : Flight) (now : Nat) {attempt : Nat} (positive : 0 < attempt)
    (outcome : Outcome) :
    if Outcome.isRetryable outcome = true ∧ attempt < flight.request.mostAttempts then
      ∃ delay, flight.backoff.nextDelay attempt = some delay ∧
        flight.landed now attempt outcome = .pausing attempt (Clock.deadline now delay)
    else
      flight.landed now attempt outcome = .finished (validate flight.request.options outcome) := by
  have follows := flight.nextDelay_isSome_iff positive outcome
  cases next : World.nextDelay flight attempt outcome with
  | none =>
      rw [next] at follows
      rw [if_neg (by simp [← follows]), landed, next]
  | some delay =>
      rw [next] at follows
      rw [if_pos (follows.1 rfl)]
      refine ⟨delay, ?_, by rw [landed, next]⟩
      unfold World.nextDelay at next
      split at next
      · exact next
      · cases next

end Flight

/-- The attempts of an exchange are numbered from one. -/
theorem Sounded.attempt_pos {config : Config} {flight : Flight} {now attempt : Nat} {tale : List (Nat × Signal)}
    (sounded : Sounded config flight now attempt tale) : 0 < attempt := by
  obtain ⟨_, _, _, _, rfl, _⟩ := sounded
  exact Nat.succ_pos _

namespace World

/-- What an attempt with an outcome does. -/
def concluded (world : World) (flight : Flight) (exchange : Exchange) (outcome : Outcome) :
    Change where
  signals :=
    .ended flight.id exchange.attempt (some outcome) ::
      (flight.recordings exchange.attempt outcome ++
        [flight.sequel world.now exchange.attempt outcome])
  gate := world.gate.leave flight.id
  breaker := world.accounted flight outcome
  flight := flight.onward (flight.landed world.now exchange.attempt outcome)

@[simp] theorem flight_concluded (world : World) (flight : Flight) (exchange : Exchange)
    (outcome : Outcome) :
    (world.concluded flight exchange outcome).flight =
      flight.onward (flight.landed world.now exchange.attempt outcome) := rfl

variable {world : World} {flight : Flight} {exchange : Exchange} {id : Nat}

/-- After a failure that is not worth another attempt only the ends are left. -/
theorem concluded_of_hopeless {failure : Failure} (hopeless : failure.isRetryable = false) :
    world.concluded flight exchange (.error failure) =
      { signals :=
          [.ended flight.id exchange.attempt (some (.error failure)),
            flight.verdict world.now (.error failure)]
        gate := world.gate.leave flight.id
        breaker := world.breaker
        flight := flight.onward (.finished (.error failure)) } := by
  have harmless : Outcome.isHostFailure (.error failure) = false := by
    rw [← Outcome.isRetryable_eq_isHostFailure]
    exact hopeless
  have last : nextDelay flight exchange.attempt (.error failure) = none := by
    rw [nextDelay, if_neg (by simp [Outcome.isRetryable, hopeless])]
  simp [concluded, Flight.recordings, Flight.sequel, Flight.landed, accounted, harmless, last,
    validate]

/-- An outcome that ends the request whatever else holds is not accounted for. -/
theorem concluded_of_isFinal {outcome : Outcome} (final : Outcome.isFinal outcome = true) :
    world.concluded flight exchange outcome =
      { signals :=
          [.ended flight.id exchange.attempt (some outcome), flight.verdict world.now outcome]
        gate := world.gate.leave flight.id
        breaker := world.breaker
        flight := flight.onward (.finished outcome) } := by
  rcases outcome with failure | response
  · exact concluded_of_hopeless (Outcome.isRetryable_of_isFinal final)
  · cases final

/-- The end of an exchange is that change. -/
theorem conclude_eq_apply (world : World) (flight : Flight) (exchange : Exchange)
    (answer : Outcome) :
    world.conclude flight exchange answer =
      world.apply (world.concluded flight exchange (exchange.guard.finish answer)) := by
  unfold conclude
  generalize exchange.guard.finish answer = outcome
  simp only [settle]
  cases final : Outcome.isFinal outcome with
  | true =>
      rw [concluded_of_isFinal final, if_pos rfl]
      rfl
  | false =>
      simp only [Bool.false_eq_true, if_false, concluded, Flight.landed, Flight.sequel]
      cases next : nextDelay flight exchange.attempt outcome <;>
        cases failure : Outcome.isHostFailure outcome <;>
          simp only [account, accounted, Flight.recordings, failure, if_true, if_false,
            Bool.false_eq_true] <;>
          rfl

/-- The change is a turn of the request. -/
theorem turn_concluded (stage : flight.stage = .exchanging exchange) (outcome : Outcome) :
    Turn world flight (world.concluded flight exchange outcome) := by
  cases final : Outcome.isFinal outcome with
  | true =>
      rw [concluded_of_isFinal final]
      exact .surrender stage outcome final
  | false =>
      cases next : nextDelay flight exchange.attempt outcome with
      | none =>
          simp only [concluded, Flight.landed, Flight.sequel, next]
          exact .resolve stage outcome final next
      | some delay =>
          have both : Outcome.isRetryable outcome = true ∧
              flight.backoff.nextDelay exchange.attempt = some delay := by
            unfold nextDelay at next
            split at next
            · exact ⟨‹_›, next⟩
            · cases next
          simp only [concluded, Flight.landed, Flight.sequel, next]
          exact .retry stage outcome both.1 both.2

/-! ## The table of an exchange -/

/-- A request in its exchange after a step that is addressed to it. -/
def exchanged (world : World) (flight : Flight) (exchange : Exchange) (label : Label) : Flight :=
  match exchange.answer? flight.request.options world.now label with
  | some answer =>
      flight.onward
        (flight.landed world.now exchange.attempt (exchange.guard.finish answer))
  | none =>
      match label with
      | .poll _ =>
          flight.onward
            (if world.isCancelled flight = true then .finished (.error .cancelled)
              else .exchanging { exchange with attended := true })
      | .notify _ notice =>
          let guard := (exchange.guard.check notice).2
          { flight with seen := guard.forwarded, stage := .exchanging { exchange with guard } }
      | .pend _ => flight.onward (.exchanging { exchange with attended := false })
      | .drop _ => flight.onward .dropped
      | _ => flight

/-- A step that gives an exchange an outcome ends it. -/
theorem step_of_answer (found : world.flight? id = some flight)
    (stage : flight.stage = .exchanging exchange) {label : Label} (addressed : label.id? = some id)
    {answer : Outcome}
    (answered : exchange.answer? flight.request.options world.now label = some answer) :
    world.step label =
      world.apply (world.concluded flight exchange (exchange.guard.finish answer)) := by
  rw [← conclude_eq_apply]
  cases label with
  | complete taken outcome =>
      obtain rfl : taken = id := Option.some.inj addressed
      simp only [Exchange.answer?] at answered
      split at answered
      · rename_i attended
        obtain rfl := Option.some.inj answered
        simp [step, onFlight, found, complete, stage, attended]
      · cases answered
  | pend taken =>
      obtain rfl : taken = id := Option.some.inj addressed
      simp only [Exchange.answer?] at answered
      split at answered
      · rename_i attended
        split at answered
        · rename_i deadline limit timed allowed
          split at answered
          · rename_i due
            obtain rfl := Option.some.inj answered
            simp [step, onFlight, found, pend, stage, attended, timed, allowed, due]
          · cases answered
        · cases answered
      · cases answered
  | _ => cases answered

/-- A step that gives an exchange no outcome leaves the request in it, or ends the exchange without
one. -/
theorem step_of_silence (found : world.flight? id = some flight)
    (stage : flight.stage = .exchanging exchange) {label : Label} (addressed : label.id? = some id)
    (silent : exchange.answer? flight.request.options world.now label = none) :
    (world.step label = world ∧ world.exchanged flight exchange label = flight) ∨
      ∃ change, Turn world flight change ∧ world.step label = world.apply change ∧
        change.flight = world.exchanged flight exchange label ∧
        change.breaker = world.breaker ∧
        ∀ signal ∈ change.signals, signal.isAftermath = false := by
  have tending : ∀ {after : World} (seen : List Notice) (guard : SizeGuard) (attended : Bool),
      after = world.apply (world.moving []
        { flight with seen, stage := .exchanging { exchange with guard, attended } }) →
      world.exchanged flight exchange label =
        { flight with seen, stage := .exchanging { exchange with guard, attended } } →
      ∃ change, Turn world flight change ∧ after = world.apply change ∧
        change.flight = world.exchanged flight exchange label ∧
        change.breaker = world.breaker ∧
        ∀ signal ∈ change.signals, signal.isAftermath = false :=
    fun seen guard attended same listed =>
      ⟨_, .tend stage seen guard attended, same, listed.symm, rfl, by simp⟩
  cases label with
  | submit taken request watcher =>
      obtain rfl : taken = id := Option.some.inj addressed
      refine .inl ⟨?_, rfl⟩
      simp only [step, found, Option.isSome_some, if_true]
  | poll taken =>
      obtain rfl : taken = id := Option.some.inj addressed
      right
      cases cancelled : world.isCancelled flight with
      | true =>
          refine ⟨_, .sever stage cancelled, ?_, ?_, rfl, ?_⟩
          · simp only [step, onFlight, found, poll, stage, attend, cancelled, if_true]
            rfl
          · simp [exchanged, silent, cancelled]
          · simp [Signal.isAftermath, Flight.verdict]
      | false =>
          refine tending flight.seen exchange.guard true ?_ ?_
          · simp only [step, onFlight, found, poll, stage, attend, cancelled, Bool.false_eq_true,
              if_false]
            rfl
          · simp [exchanged, silent, cancelled, Flight.onward]
  | notify taken notice =>
      obtain rfl : taken = id := Option.some.inj addressed
      right
      refine tending (exchange.guard.check notice).2.forwarded (exchange.guard.check notice).2
        exchange.attended ?_ ?_
      · simp only [step, onFlight, found, notify, stage]
        rfl
      · simp [exchanged, silent]
  | pend taken =>
      obtain rfl : taken = id := Option.some.inj addressed
      simp only [exchanged, silent]
      cases attended : exchange.attended with
      | false =>
          refine .inl ⟨?_, ?_⟩
          · simp [step, onFlight, found, pend, stage, attended]
          · rw [Flight.onward, ← attended, ← stage]
      | true =>
          have rests : world.step (.pend taken) =
              world.put
                { flight with stage := .exchanging { exchange with attended := false } } := by
            simp only [step, onFlight, found, pend, stage, attended, if_true]
            split
            · rename_i deadline limit timed allowed
              have early : Clock.due deadline world.now = false := by
                simpa [Exchange.answer?, attended, timed, allowed] using silent
              rw [early, if_neg Bool.false_ne_true]
            · rfl
          right
          exact ⟨_, .tend stage flight.seen exchange.guard false, rests, rfl, rfl, by simp⟩
  | complete taken outcome =>
      obtain rfl : taken = id := Option.some.inj addressed
      refine .inl ⟨?_, by simp only [exchanged, silent]⟩
      cases attended : exchange.attended with
      | false => simp [step, onFlight, found, complete, stage, attended]
      | true => simp [Exchange.answer?, attended] at silent
  | drop taken =>
      obtain rfl : taken = id := Option.some.inj addressed
      right
      refine ⟨_, .dropExchanging stage, ?_, ?_, rfl, ?_⟩
      · simp only [step, onFlight, found, drop, stage]
        rfl
      · simp [exchanged, silent]
      · simp [Signal.isAftermath]
  | _ => cases addressed

/-- An exchange without an outcome goes on, or its request was cancelled or is dropped. -/
theorem stage_exchanged_of_silence (stage : flight.stage = .exchanging exchange) {label : Label}
    (silent : exchange.answer? flight.request.options world.now label = none) :
    (∃ later, (world.exchanged flight exchange label).stage = .exchanging later) ∨
      ((world.exchanged flight exchange label).stage = .finished (.error .cancelled) ∧
        world.isCancelled flight = true) ∨
      (world.exchanged flight exchange label).stage = .dropped := by
  simp only [exchanged, silent]
  split
  · cases cancelled : world.isCancelled flight with
    | true => exact .inr (.inl ⟨rfl, rfl⟩)
    | false => exact .inl ⟨_, rfl⟩
  · exact .inl ⟨_, rfl⟩
  · exact .inl ⟨_, rfl⟩
  · exact .inr (.inr rfl)
  · exact .inl ⟨_, stage⟩

/-- **What becomes of a request in its exchange is as the table says.** -/
theorem flight?_step_exchanging (nodup : (world.flights.map (·.id)).Nodup)
    (found : world.flight? id = some flight) (stage : flight.stage = .exchanging exchange)
    {label : Label} (addressed : label.id? = some id) :
    (world.step label).flight? id = some (world.exchanged flight exchange label) := by
  obtain ⟨member, rfl⟩ := mem_of_flight? found
  cases answered : exchange.answer? flight.request.options world.now label with
  | some answer =>
      rw [step_of_answer found stage addressed answered,
        flight?_apply nodup member (turn_concluded stage _)]
      simp only [flight_concluded, exchanged, answered]
  | none =>
      rcases step_of_silence found stage addressed answered with
        ⟨same, unchanged⟩ | ⟨change, turn, after, listed, _⟩
      · rw [same, unchanged]
        exact found
      · rw [after, flight?_apply nodup member turn, listed]

end World

/-! ## Landings -/

/-- Outside an exchange no turn tells of an outcome. -/
theorem Turn.isAftermath_of_outside {world : World} {flight : Flight} {change : Change}
    (turn : Turn world flight change) (outside : flight.stage.exchange? = none) :
    ∀ signal ∈ change.signals, signal.isAftermath = false := by
  cases turn with
  | start stage => simp [World.moving, Signal.isAftermath]
  | dropElsewhere => simp [World.moving]
  | _ stage => simp_all [World.moving, Flight.verdict, Signal.isAftermath, Stage.exchange?]

/-- An attempt that ran to an outcome. -/
structure Landing where
  /-- When the attempt ended. -/
  moment : Nat
  id : Nat
  attempt : Nat
  host : HostKey
  outcome : Outcome

/-- Whether the outcome counts against the host. -/
def Landing.isFailureOf (host : HostKey) (landing : Landing) : Bool :=
  Outcome.isHostFailure landing.outcome && landing.host == host

theorem Landing.isFailureOf_host (landing : Landing) :
    landing.isFailureOf landing.host = Outcome.isRetryable landing.outcome := by
  rw [isFailureOf, BEq.rfl, Bool.and_true, Outcome.isRetryable_eq_isHostFailure]

namespace World

/-- The attempt that lands in a step, if one does. -/
def landing? (world : World) (label : Label) : Option Landing :=
  (label.id?.bind world.flight?).bind fun flight =>
    flight.stage.exchange?.bind fun exchange =>
      (exchange.answer? flight.request.options world.now label).map fun answer =>
        { moment := world.now, id := flight.id, attempt := exchange.attempt, host := flight.host
          outcome := exchange.guard.finish answer }

/-- The attempts that land in a run, in the order in which they do. -/
def landings (world : World) : List Label → List Landing
  | [] => []
  | label :: rest => (world.landing? label).toList ++ (world.step label).landings rest

theorem landings_append (world : World) (front back : List Label) :
    world.landings (front ++ back) = world.landings front ++ (world.run front).landings back := by
  induction front generalizing world with
  | nil => rfl
  | cons label rest ih =>
      rw [List.cons_append, landings, ih, landings, List.append_assoc, run_cons]

theorem landings_concat (world : World) (front : List Label) (label : Label) :
    world.landings (front ++ [label]) =
      world.landings front ++ ((world.run front).landing? label).toList := by
  rw [landings_append, landings, landings, List.append_nil]

variable {world : World} {label : Label}

/-- An attempt lands when its exchange is given an outcome. -/
theorem landing?_eq_some_iff {landing : Landing} :
    world.landing? label = some landing ↔
      ∃ flight exchange answer, label.id? = some landing.id ∧
        world.flight? landing.id = some flight ∧ flight.stage = .exchanging exchange ∧
        exchange.answer? flight.request.options world.now label = some answer ∧
        landing = ⟨world.now, flight.id, exchange.attempt, flight.host,
          exchange.guard.finish answer⟩ := by
  simp only [landing?, Option.bind_eq_some_iff, Option.map_eq_some_iff]
  constructor
  · rintro ⟨flight, ⟨id, addressed, found⟩, exchange, stage, answer, answered, rfl⟩
    obtain ⟨_, rfl⟩ := mem_of_flight? found
    exact ⟨flight, exchange, answer, addressed, found, Stage.exchange?_eq_some_iff.1 stage,
      answered, rfl⟩
  · rintro ⟨flight, exchange, answer, addressed, found, stage, answered, same⟩
    exact ⟨flight, ⟨landing.id, addressed, found⟩, exchange,
      Stage.exchange?_eq_some_iff.2 stage, answer, answered, same.symm⟩

/-- **The journal tells of an outcome, of a failure or of another attempt only when an attempt
lands.** -/
theorem isAftermath_of_no_landing (nodup : (world.flights.map (·.id)).Nodup)
    (none : world.landing? label = none) {recent : List (Nat × Signal)}
    (grown : (world.step label).journal = recent ++ world.journal) :
    ∀ entry ∈ recent, entry.2.isAftermath = false := by
  rintro ⟨moment, signal⟩ new
  obtain ⟨_, ⟨_, _, _, rfl⟩ | rfl | ⟨flight, member, change, turn, _, _, present⟩⟩ :=
    (world.step_move label).turn_of_mem grown new
  · rfl
  · rfl
  · cases inside : flight.stage.exchange? with
    | none => exact turn.isAftermath_of_outside inside signal present
    | some exchange =>
        have addressed := addressed_of_mem grown new (turn.id?_of_mem_signals signal present)
        have found := flight?_of_mem nodup member
        have silent : exchange.answer? flight.request.options world.now label = .none := by
          simpa [landing?, addressed, found, inside] using none
        rcases step_of_silence found (Stage.exchange?_eq_some_iff.1 inside) addressed silent with
          ⟨same, _⟩ | ⟨other, _, after, _, _, quiet⟩
        · rw [same, eq_comm, List.append_left_eq_self] at grown
          simp [grown] at new
        · rw [after, journal_apply] at grown
          rw [← List.append_cancel_right grown, List.mem_reverse, List.mem_map] at new
          obtain ⟨_, told, same⟩ := new
          obtain ⟨rfl, rfl⟩ := Prod.mk.inj same
          exact quiet _ told

/-- **A failure is recorded exactly when an attempt lands with an outcome that counts against its
host.** -/
theorem failureLog_step (nodup : (world.flights.map (·.id)).Nodup) (label : Label)
    (host : HostKey) :
    (world.step label).failureLog host =
      world.failureLog host ++
        ((world.landing? label).toList.filter (·.isFailureOf host)).map (·.moment) := by
  obtain ⟨recent, grown⟩ := world.journal_step label
  rw [failureLog, grown, FailureLog.ofJournal_append]
  refine congrArg (world.failureLog host ++ ·) ?_
  cases lands : world.landing? label with
  | none =>
      have nothing : (recent.filter fun entry => entry.2.isRecordOf host) = [] := by
        refine List.filter_eq_nil_iff.2 fun entry new record => ?_
        have quiet := isAftermath_of_no_landing nodup lands grown entry new
        cases told : entry.2 <;> simp_all [Signal.isRecordOf, Signal.isAftermath]
      rw [nothing]
      rfl
  | some landing =>
      obtain ⟨flight, exchange, answer, addressed, found, stage, answered, rfl⟩ :=
        landing?_eq_some_iff.1 lands
      rw [step_of_answer found stage addressed answered, journal_apply] at grown
      rw [← List.append_cancel_right grown]
      -- Of the signals of an attempt that lands only the recording counts, if there is one.
      have ended : Signal.isRecordOf host (.ended flight.id exchange.attempt
          (some (exchange.guard.finish answer))) = false := rfl
      have recorded : Signal.isRecordOf host (.recorded flight.id exchange.attempt flight.host) =
          (flight.host == host) := rfl
      have sequel : Signal.isRecordOf host (flight.sequel world.now exchange.attempt
          (exchange.guard.finish answer)) = false := by
        unfold Flight.sequel
        split <;> rfl
      cases failure : Outcome.isHostFailure (exchange.guard.finish answer)
      · simp [concluded, Flight.recordings, Landing.isFailureOf, failure, ended, sequel]
      · by_cases here : flight.host = host
        · subst here
          simp [concluded, Flight.recordings, Landing.isFailureOf, failure, ended, recorded, sequel]
        · simp [concluded, Flight.recordings, Landing.isFailureOf, failure, here, ended, recorded,
            sequel]

/-- An attempt that lands takes its request into a pause or to its result. -/
theorem flight?_step_of_landing {config : Config} {landing : Landing}
    (orderly : world.Orderly config) (narrated : world.Narrated config)
    (lands : world.landing? label = some landing) :
    ∃ current, (world.step label).flight? landing.id = some current ∧
      landing.host = .ofUrl current.request.url ∧
      if Outcome.isRetryable landing.outcome = true ∧
          landing.attempt < current.request.mostAttempts then
        ∃ delay, current.backoff.nextDelay landing.attempt = some delay ∧
          current.stage = .pausing landing.attempt (Clock.deadline world.now delay)
      else current.stage = .finished (validate current.request.options landing.outcome) := by
  obtain ⟨flight, exchange, answer, addressed, found, stage, answered, rfl⟩ :=
    landing?_eq_some_iff.1 lands
  have sounded := narrated.told flight (mem_of_flight? found).1
  rw [stage] at sounded
  have table := flight?_step_exchanging orderly.nodup found stage addressed
  simp only [exchanged, answered] at table
  exact ⟨_, table, rfl,
    flight.landed_cases world.now (Sounded.attempt_pos sounded) (exchange.guard.finish answer)⟩

end World

end ResilientHttp
