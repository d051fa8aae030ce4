import ResilientHttp.Proofs.Engine.Landing
import ResilientHttp.Proofs.Engine.Protection

/-!
# Which failures are recorded

A failure is recorded once for every attempt that lands with an outcome that counts against its
host, with the moment at which it landed, and for nothing else (`World.charges`). The record of the
journal is this list (`World.failureLog_run`), and the breaker, which forgets what is aged, still
counts as the whole list does.

An attempt landed when the journal tells that it ended with an outcome (`World.ended_iff_landed`), and
no attempt lands twice (`World.nodup_landings`): the tale of a request in its exchange tells of the
ends of earlier attempts only (`Sounded.not_ended`), and every attempt that lands is told of.

Whether a request pauses for another attempt is decided by the same outcome: it pauses exactly when
the failure was recorded and attempts remain (`World.failures_accounted`).
-/

set_option autoImplicit false

namespace ResilientHttp

variable {config : Config} {world : World} {flight : Flight} {label : Label}

/-! ## An attempt lands once -/

theorem Rounds.attempt_lt_of_ended {rounds : Rounds} {id first attempt moment : Nat}
    {request : Request} {outcome : Option Outcome}
    (told : (moment, .ended id attempt outcome) ∈ rounds.signals config id request first) :
    attempt < first + rounds.length := by
  induction rounds generalizing first with
  | nil => cases told
  | cons round rest ih =>
      rw [Rounds.signals, List.mem_append] at told
      rcases told with here | later
      · simp only [Round.signals, Passage.signals, List.mem_append, List.mem_cons, Prod.mk.injEq,
          reduceCtorEq, and_false, List.not_mem_nil, or_false, false_or, Signal.ended.injEq] at here
        obtain ⟨_, _, rfl, _⟩ := here
        rw [List.length_cons]
        omega
      · have further := ih later
        rw [List.length_cons]
        omega

/-- The tale of a request in its exchange does not tell of the end of the attempt. -/
theorem Sounded.not_ended {now attempt moment : Nat} {tale : List (Nat × Signal)}
    {outcome : Option Outcome} (sounded : Sounded config flight now attempt tale) :
    (moment, .ended flight.id attempt outcome) ∉ tale := by
  intro told
  obtain ⟨rounds, past, passage, begun, rfl, _, _, rfl⟩ := sounded
  obtain ⟨submitted, _, rfl⟩ := begun.told
  simp only [Flight.opening, Passage.signals, List.mem_append, List.mem_cons, List.mem_map,
    Prod.mk.injEq, reduceCtorEq, and_false, exists_false, List.not_mem_nil, or_false,
    false_or] at told
  have earlier := Rounds.attempt_lt_of_ended told
  omega

namespace World

/-- The tale of a request is what the journal has about it. -/
theorem mem_tale_iff {id : Nat} {entry : Nat × Signal} :
    entry ∈ world.tale id ↔ entry ∈ world.journal ∧ entry.2.id? = some id := by
  rw [tale, List.mem_reverse, List.mem_filter, beq_iff_eq]

/-- An attempt that lands is told of. -/
theorem ended_of_landing {landing : Landing} (lands : world.landing? label = some landing) :
    (landing.moment, .ended landing.id landing.attempt (some landing.outcome)) ∈
      (world.step label).journal := by
  obtain ⟨flight, exchange, answer, addressed, found, stage, answered, rfl⟩ :=
    landing?_eq_some_iff.1 lands
  rw [step_of_answer found stage addressed answered, journal_apply]
  simp [concluded]

/-- Every attempt that landed in a run is told of. -/
theorem ended_of_mem_landings (config : Config) (labels : List Label) :
    ∀ landing ∈ (new config).landings labels,
      (landing.moment, .ended landing.id landing.attempt (some landing.outcome)) ∈
        ((new config).run labels).journal := by
  induction labels using List.reverseRecOn with
  | nil => simp [landings]
  | append_singleton front last ih =>
      intro landing member
      rw [landings_concat, List.mem_append, Option.mem_toList] at member
      rw [run_append]
      rcases member with older | newest
      · obtain ⟨recent, grown⟩ := ((new config).run front).journal_step last
        rw [run_cons, run_nil, grown]
        exact List.mem_append_right _ (ih landing older)
      · exact ended_of_landing newest

/-- What a step tells of an attempt that ended with an outcome is that it landed. -/
theorem landing_of_ended (nodup : (world.flights.map (·.id)).Nodup)
    {recent : List (Nat × Signal)} (grown : (world.step label).journal = recent ++ world.journal)
    {moment id attempt : Nat} {outcome : Outcome}
    (new : (moment, .ended id attempt (some outcome)) ∈ recent) :
    ∃ host, world.landing? label = some ⟨moment, id, attempt, host, outcome⟩ := by
  cases lands : world.landing? label with
  | none => cases isAftermath_of_no_landing nodup lands grown _ new
  | some landing =>
      obtain ⟨flight, exchange, answer, addressed, found, stage, answered, rfl⟩ :=
        landing?_eq_some_iff.1 lands
      rw [step_of_answer found stage addressed answered, journal_apply] at grown
      rw [← List.append_cancel_right grown, List.mem_reverse, List.mem_map] at new
      obtain ⟨signal, told, same⟩ := new
      obtain ⟨rfl, rfl⟩ := Prod.mk.inj same
      simp only [concluded, Flight.recordings, Flight.sequel, List.mem_cons, List.mem_append,
        List.not_mem_nil, or_false, Signal.ended.injEq, Option.some.injEq] at told
      rcases told with ⟨rfl, rfl, rfl⟩ | recorded | sequel
      · exact ⟨flight.host, rfl⟩
      · split at recorded
        · cases List.mem_singleton.1 recorded
        · cases recorded
      · split at sequel <;> cases sequel

/-- **An attempt landed when the journal tells that it ended with an outcome.** -/
theorem ended_iff_landed (config : Config) (labels : List Label) {moment id attempt : Nat}
    {outcome : Outcome} :
    (moment, .ended id attempt (some outcome)) ∈ ((new config).run labels).journal ↔
      ∃ host, ⟨moment, id, attempt, host, outcome⟩ ∈ (new config).landings labels := by
  constructor
  · intro told
    induction labels using List.reverseRecOn with
    | nil => cases told
    | append_singleton front last ih =>
        obtain ⟨recent, grown⟩ := ((new config).run front).journal_step last
        rw [run_append, run_cons, run_nil, grown, List.mem_append] at told
        rw [landings_concat]
        rcases told with newest | older
        · obtain ⟨host, lands⟩ := landing_of_ended (orderly_run config front).nodup grown newest
          exact ⟨host, List.mem_append_right _ (Option.mem_toList.2 lands)⟩
        · obtain ⟨host, member⟩ := ih older
          exact ⟨host, List.mem_append_left _ member⟩
  · rintro ⟨host, member⟩
    exact ended_of_mem_landings config labels _ member

/-- **No attempt lands twice.** -/
theorem nodup_landings (config : Config) (labels : List Label) :
    (((new config).landings labels).map fun landing => (landing.id, landing.attempt)).Nodup := by
  induction labels using List.reverseRecOn with
  | nil => exact List.nodup_nil
  | append_singleton front last ih =>
      rw [landings_concat]
      cases lands : ((new config).run front).landing? last with
      | none => simpa using ih
      | some landing =>
          simp only [Option.toList_some, List.map_append, List.map_cons, List.map_nil]
          rw [List.nodup_append]
          refine ⟨ih, List.nodup_singleton _, ?_⟩
          intro number earlier again newest same
          rw [List.mem_singleton] at newest
          subst newest
          subst same
          obtain ⟨other, member, number⟩ := List.mem_map.1 earlier
          obtain ⟨sameId, sameAttempt⟩ := Prod.mk.inj number
          -- The other attempt was told of before, and the tale of the exchange cannot have it.
          have told := ended_of_mem_landings config front other member
          obtain ⟨flight, exchange, answer, _, found, stage, _, rfl⟩ :=
            landing?_eq_some_iff.1 lands
          have sounded := (narrated_run config front).told flight (mem_of_flight? found).1
          rw [stage] at sounded
          have sameId : other.id = flight.id := sameId
          have sameAttempt : other.attempt = exchange.attempt := sameAttempt
          rw [sameId, sameAttempt] at told
          exact Sounded.not_ended sounded (mem_tale_iff.2 ⟨told, rfl⟩)

/-! ## The record of a run -/

/-- The moments at which attempts at a host landed with an outcome that counts against it. -/
def charges (world : World) (labels : List Label) : FailureLog := fun host =>
  ((world.landings labels).filter (·.isFailureOf host)).map (·.moment)

/-- **The failures of the journal are those of the attempts that landed.** -/
theorem failureLog_run (config : Config) (labels : List Label) :
    ((new config).run labels).failureLog = (new config).charges labels := by
  funext host
  induction labels using List.reverseRecOn with
  | nil => rfl
  | append_singleton front last ih =>
      have nodup := (orderly_run config front).nodup
      rw [run_append, run_cons, run_nil, failureLog_step nodup last host, ih, charges, charges,
        landings_concat, List.filter_append, List.map_append]

/-! ## What follows on an attempt that lands -/

/-- A pause begins only where an attempt lands. -/
theorem landing_of_pausing (nodup : (world.flights.map (·.id)).Nodup) {id made wake : Nat}
    {current : Flight} (after : (world.step label).flight? id = some current)
    (pausing : current.stage = .pausing made wake) :
    world.flight? id = some current ∨
      ∃ landing, world.landing? label = some landing ∧ landing.id = id ∧ landing.attempt = made := by
  rcases flight?_step_cases nodup after with
    same | ⟨_, _, _, _, rfl⟩ | ⟨flight, change, addressed, found, turn, _, rfl⟩
  · exact .inl same
  · cases pausing
  · have inside : ∃ exchange, flight.stage = .exchanging exchange := by
      cases turn with
      | retry stage => exact ⟨_, stage⟩
      | _ => cases pausing
    obtain ⟨exchange, stage⟩ := inside
    have table := flight?_step_exchanging nodup found stage addressed
    rw [after, Option.some.injEq] at table
    rw [table] at pausing
    cases answered : exchange.answer? flight.request.options world.now label with
    | none =>
        rcases stage_exchanged_of_silence stage answered with ⟨_, inside⟩ | ⟨ended, _⟩ | dropped
        · cases inside.symm.trans pausing
        · cases ended.symm.trans pausing
        · cases dropped.symm.trans pausing
    | some answer =>
        obtain ⟨_, rfl⟩ := mem_of_flight? found
        refine .inr ⟨_, landing?_eq_some_iff.2
          ⟨flight, exchange, answer, addressed, found, stage, answered, rfl⟩, rfl, ?_⟩
        simp only [exchanged, answered, Flight.stage_onward, Flight.landed] at pausing
        split at pausing
        · exact (Stage.pausing.inj pausing).1
        · cases pausing

/-- An attempt whose time is over counts against its host. -/
theorem isFailureOf_of_pend {id : Nat} {landing : Landing}
    (lands : world.landing? (.pend id) = some landing) :
    landing.isFailureOf landing.host = true := by
  obtain ⟨flight, exchange, answer, _, _, _, answered, rfl⟩ := landing?_eq_some_iff.1 lands
  obtain ⟨_, ⟨_, other⟩ | ⟨_, limit, _, rfl⟩⟩ := Exchange.answer?_cases answered
  · cases other
  · unfold Landing.isFailureOf SizeGuard.finish
    rw [BEq.rfl, Bool.and_true]
    split <;> rfl

/-- **Failures are accounted for exactly.** In every run of a client, whatever the order of its
steps:

* The recorded failures of a host are the moments at which attempts at it landed with an outcome
  that counts against it, and at no later time does the breaker count others than these.
* An attempt landed when the journal tells that it ended with an outcome, and none lands twice. The
  outcomes that count are responses with a status of 500 or more, failed exchanges and answers that
  are too large; an attempt whose time is over has such an outcome.
* An attempt that lands is one at the host of its request. Afterwards the request pauses if the
  outcome was recorded and attempts remain, and otherwise it has its result.
* A step in which no attempt lands records nothing, and no request begins a pause in it. -/
theorem failures_accounted (config : Config) (labels : List Label) :
    let world := (new config).run labels
    let landings := (new config).landings labels
    (∀ host, world.failureLog host = (landings.filter (·.isFailureOf host)).map (·.moment)) ∧
    (∀ host later, world.now ≤ later →
      (world.breaker.failureCount host later).1 =
        ((new config).charges labels).count config.breaker host later) ∧
    (∀ moment id attempt outcome,
      (moment, .ended id attempt (some outcome)) ∈ world.journal ↔
        ∃ host, ⟨moment, id, attempt, host, outcome⟩ ∈ landings) ∧
    (landings.map fun landing => (landing.id, landing.attempt)).Nodup ∧
    (∀ landing : Landing, ∀ host, landing.isFailureOf host = true ↔
      ((∃ response, landing.outcome = .ok response ∧ 500 ≤ response.status) ∨
        (∃ fault, landing.outcome = .error (.transport fault)) ∨
        (∃ bytes, landing.outcome = .error (.tooLarge bytes))) ∧ landing.host = host) ∧
    (∀ id landing, world.landing? (.pend id) = some landing →
      landing.isFailureOf landing.host = true) ∧
    (∀ label landing, world.landing? label = some landing →
      landing.moment = world.now ∧
      ∃ current, (world.step label).flight? landing.id = some current ∧
        landing.host = .ofUrl current.request.url ∧
        if landing.isFailureOf landing.host = true ∧
            landing.attempt < current.request.mostAttempts then
          ∃ delay, current.backoff.nextDelay landing.attempt = some delay ∧
            current.stage = .pausing landing.attempt (Clock.deadline world.now delay)
        else current.stage = .finished (validate current.request.options landing.outcome)) ∧
    (∀ label, world.landing? label = none →
      (world.step label).failureLog = world.failureLog ∧
      ∀ id current made wake, (world.step label).flight? id = some current →
        current.stage = .pausing made wake → world.flight? id = some current) := by
  intro world landings
  have orderly : world.Orderly config := orderly_run config labels
  have faithful : world.Faithful config := faithful_run config labels
  have record : world.failureLog = (new config).charges labels := failureLog_run config labels
  refine ⟨fun host => congrFun record host, ?_, fun _ _ _ _ => ended_iff_landed config labels,
    nodup_landings config labels, ?_, fun id landing => isFailureOf_of_pend, ?_, ?_⟩
  · intro host later order
    rw [(faithful.remembers.later order).failureCount_eq, faithful.strategy, record]
  · intro landing host
    rw [Landing.isFailureOf, Bool.and_eq_true, beq_iff_eq,
      ← Outcome.isRetryable_eq_isHostFailure, Outcome.isRetryable_iff]
  · intro label landing lands
    have moment : landing.moment = world.now := by
      obtain ⟨_, _, _, _, _, _, _, rfl⟩ := landing?_eq_some_iff.1 lands
      rfl
    obtain ⟨current, after, host, stage⟩ :=
      flight?_step_of_landing orderly (narrated_run config labels) lands
    rw [← landing.isFailureOf_host] at stage
    exact ⟨moment, current, after, host, stage⟩
  · intro label calm
    refine ⟨?_, ?_⟩
    · funext host
      rw [failureLog_step orderly.nodup label host, calm]
      exact List.append_nil _
    · intro id current made wake after pausing
      refine (landing_of_pausing orderly.nodup after pausing).resolve_right ?_
      rintro ⟨landing, lands, _⟩
      cases calm.symm.trans lands

/-- The stubborn request lands twice before its host is open, and the breaker counts both. -/
theorem failures_accounted_stubbornRun :
    ((new watchfulConfig).landings stubbornRun).length = 2 ∧
      (stubbornWorld.breaker.failureCount (.ofUrl plainUrl) stubbornWorld.now).1 = 2 := by
  obtain ⟨_, counted, _⟩ := failures_accounted watchfulConfig stubbornRun
  have both : ((new watchfulConfig).charges stubbornRun).count watchfulConfig.breaker
      (.ofUrl plainUrl) stubbornWorld.now = 2 := by
    decide +kernel
  exact ⟨by decide +kernel, (counted _ _ (Nat.le_refl _)).trans both⟩

end World

end ResilientHttp
