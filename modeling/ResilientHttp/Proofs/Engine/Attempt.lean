import ResilientHttp.Proofs.Engine.Landing
import ResilientHttp.Proofs.Guard.Excess
import ResilientHttp.Proofs.Lists

/-!
# The outcome of one attempt

An attempt has its slot from the look at which it takes it until its exchange is over. In between
the transport may report progress, answer, or have no answer yet; the caller may cancel the request
or walk away from it; time passes; and other requests go their way. Here the attempt is followed from
that look on. The guard of the exchange is always the guard that was made for the attempt, after the
notices of this attempt and of no other, and its deadline counts from the look at which the slot was
taken (`World.UnderWay`).

So it can be said without a guard or a deadline what ends an attempt in a step, and with what
(`AttemptEnd`): a cancelled token comes first, then a notice that exceeded the cap, then what the
transport or the clock made of the attempt, and last the size of the body. Every attempt ends in one
of these ways and in no other (`World.attempt_outcome`).
-/

set_option autoImplicit false

namespace ResilientHttp

namespace Label

/-- The notice that the transport reports to a request, if it does. -/
def notice? (id : Nat) : Label → Option Notice
  | notify other notice => if other = id then some notice else none
  | _ => none

/-- The notices that the transport reports to a request in a run. -/
def noticesTo (id : Nat) (labels : List Label) : List Notice := labels.filterMap (notice? id)

/-- The request was looked at, and the transport has not said since then that it has no answer. -/
def IsLookedAt (id : Nat) (labels : List Label) : Prop :=
  ∃ before after, labels = before ++ .poll id :: after ∧ .pend id ∉ after

theorem noticesTo_concat (id : Nat) (labels : List Label) (label : Label) :
    noticesTo id (labels ++ [label]) = noticesTo id labels ++ (label.notice? id).toList := by
  rw [noticesTo, List.filterMap_append, noticesTo]
  cases notice : label.notice? id <;> simp [notice]

/-- Only what is addressed to a request is a notice to it. -/
theorem notice?_of_other {id : Nat} {label : Label} (other : label.id? ≠ some id) :
    label.notice? id = none := by
  cases label with
  | notify taken notice => exact if_neg fun same => other (congrArg some same)
  | _ => rfl

theorem isLookedAt_concat_iff {id : Nat} {labels : List Label} {label : Label} :
    IsLookedAt id (labels ++ [label]) ↔
      label = .poll id ∨ label ≠ .pend id ∧ IsLookedAt id labels := by
  constructor
  · rintro ⟨before, after, split, silent⟩
    obtain ⟨_, looked, _⟩ | ⟨rest, rfl, old⟩ := Splits.concat_eq_iff.1 split
    · exact .inl looked.symm
    · simp only [List.mem_append, List.mem_singleton, not_or] at silent
      exact .inr ⟨fun pends => silent.2 pends.symm, before, rest, old, silent.1⟩
  · rintro (rfl | ⟨other, before, after, rfl, silent⟩)
    · exact ⟨labels, [], rfl, by simp⟩
    · refine ⟨before, after ++ [label], by simp, ?_⟩
      simp only [List.mem_append, List.mem_singleton, not_or]
      exact ⟨silent, fun pends => other pends.symm⟩

end Label

/-- How an attempt ends in a step, in order of precedence: what is known of the attempt is whether
its token was cancelled, whether it is being looked at, when it took its slot, what time it is, and
what notices there were. -/
inductive AttemptEnd (id : Nat) (options : Options) (cancelled : Bool) (looked : Prop)
    (start now : Nat) (notices : List Notice) : Label → Option Outcome → Prop
  /-- The request is looked at, and its token was cancelled. Nothing else counts. -/
  | severed (struck : cancelled = true) :
      AttemptEnd id options cancelled looked start now notices (.poll id) none
  /-- The transport answers, whatever time it is. -/
  | answered {answer outcome : Outcome} (attended : looked)
      (verdict : Verdict options.maxResponseSize notices answer outcome) :
      AttemptEnd id options cancelled looked start now notices (.complete id answer) (some outcome)
  /-- The transport has no answer, and the time is over that the attempt may take. -/
  | expired {limit : Span} {outcome : Outcome} (attended : looked)
      (allowed : options.timeout = some limit)
      (due : Clock.due (Clock.deadline start limit) now = true)
      (verdict : Verdict options.maxResponseSize notices (.error (Failure.noResponse limit))
        outcome) :
      AttemptEnd id options cancelled looked start now notices (.pend id) (some outcome)
  /-- The caller walks away. -/
  | abandoned : AttemptEnd id options cancelled looked start now notices (.drop id) none

namespace Exchange

variable {exchange : Exchange} {options : Options} {now id : Nat} {answer given : Outcome}

/-- A transport that is being looked at can answer at any time. -/
theorem answer?_complete_iff :
    exchange.answer? options now (.complete id given) = some answer ↔
      exchange.attended = true ∧ given = answer := by
  simp only [answer?]
  split <;> simp [*]

/-- A transport without an answer means a failure when the deadline is over. -/
theorem answer?_pend_iff :
    exchange.answer? options now (.pend id) = some answer ↔
      exchange.attended = true ∧ ∃ deadline limit, exchange.deadline = some deadline ∧
        options.timeout = some limit ∧ Clock.due deadline now = true ∧
        .error (Failure.noResponse limit) = answer := by
  simp only [answer?]
  cases exchange.attended with
  | false => simp
  | true => cases exchange.deadline <;> cases options.timeout <;> simp

end Exchange

namespace World

variable {world : World} {flight : Flight} {exchange : Exchange} {id : Nat} {label : Label}

/-! ## What a step tells -/

/-- The step tells the signal. -/
def Tells (world : World) (label : Label) (signal : Signal) : Prop :=
  ∃ recent, (world.step label).journal = recent ++ world.journal ∧ (world.now, signal) ∈ recent

/-- A turn tells its signals. -/
theorem tells_iff_of_apply {change : Change} (after : world.step label = world.apply change)
    (signal : Signal) : world.Tells label signal ↔ signal ∈ change.signals := by
  unfold Tells
  rw [after, journal_apply]
  constructor
  · rintro ⟨recent, grown, new⟩
    rw [← List.append_cancel_right grown, List.mem_reverse, List.mem_map] at new
    obtain ⟨told, present, same⟩ := new
    obtain ⟨_, rfl⟩ := Prod.mk.inj same
    exact present
  · intro present
    exact ⟨_, rfl, List.mem_reverse.2 (List.mem_map.2 ⟨signal, present, rfl⟩)⟩

/-- A step that writes nothing into the journal tells nothing. -/
theorem not_tells_of_journal (still : (world.step label).journal = world.journal)
    (signal : Signal) : ¬ world.Tells label signal := by
  rintro ⟨recent, grown, new⟩
  rw [still, eq_comm, List.append_left_eq_self] at grown
  simp [grown] at new

/-- The journal only grows. -/
theorem journal_suffix_run (world : World) (labels : List Label) :
    world.journal <:+ (world.run labels).journal := by
  obtain ⟨recent, grown, _⟩ :=
    @journal_run world labels (fun _ => True) fun _ _ _ _ _ _ _ => trivial
  exact ⟨recent, grown.symm⟩

/-- No step tells anything in a run that writes nothing into the journal. -/
theorem not_tells_of_still {labels part : List Label}
    (still : (world.run labels).journal = world.journal) (shorter : part ++ [label] <+: labels)
    (signal : Signal) : ¬ (world.run part).Tells label signal := by
  obtain ⟨rest, rfl⟩ := shorter
  rintro ⟨recent, grown, new⟩
  obtain ⟨before, first⟩ := world.journal_suffix_run part
  obtain ⟨after, last⟩ := ((world.run part).step label).journal_suffix_run rest
  rw [List.append_assoc, run_append, List.singleton_append, run_cons] at still
  rw [← last, grown, ← first] at still
  have lengths := congrArg List.length still
  simp only [List.length_append] at lengths
  have some_new := List.length_pos_of_mem new
  omega

/-- What is told of a request is told by a step that is addressed to it. -/
theorem Tells.addressed {signal : Signal} (tells : world.Tells label signal)
    (about : signal.id? = some id) : label.id? = some id := by
  obtain ⟨recent, grown, new⟩ := tells
  exact addressed_of_mem grown new about

/-! ## An attempt under way -/

/-- What an attempt does not have in the end is an exchange. -/
theorem exchange?_landed (flight : Flight) (now attempt : Nat) (outcome : Outcome) :
    (flight.landed now attempt outcome).exchange? = none := by
  unfold Flight.landed
  split <;> rfl

/-- An exchange that goes on after a step is the same but for its guard, which has seen the notice
if there was one, and for whether it is looked at. -/
theorem exchanged_cases (stage : flight.stage = .exchanging exchange)
    (addressed : label.id? = some id) {later : Exchange}
    (goesOn : (world.exchanged flight exchange label).stage = .exchanging later) :
    (world.exchanged flight exchange label).request = flight.request ∧
      later.attempt = exchange.attempt ∧ later.deadline = exchange.deadline ∧
      later.guard = exchange.guard.after (label.notice? id).toList ∧
      (later.attended = true ↔ label = .poll id ∨ label ≠ .pend id ∧ exchange.attended = true) := by
  cases answered : exchange.answer? flight.request.options world.now label with
  | some answer =>
      simp only [exchanged, answered, Flight.stage_onward] at goesOn
      have left := exchange?_landed flight world.now exchange.attempt (exchange.guard.finish answer)
      rw [goesOn] at left
      cases left
  | none =>
      simp only [exchanged, answered] at goesOn ⊢
      cases label with
      | poll taken =>
          obtain rfl : taken = id := Option.some.inj addressed
          simp only [Flight.stage_onward] at goesOn
          split at goesOn
          · cases goesOn
          · cases goesOn
            exact ⟨rfl, rfl, rfl, rfl, by simp⟩
      | notify taken notice =>
          obtain rfl : taken = id := Option.some.inj addressed
          cases goesOn
          simp [Label.notice?, SizeGuard.after]
      | pend taken =>
          obtain rfl : taken = id := Option.some.inj addressed
          cases goesOn
          exact ⟨rfl, rfl, rfl, rfl, by simp⟩
      | drop taken => cases goesOn
      | submit _ _ _ | complete _ _ =>
          obtain rfl := Stage.exchanging.inj (stage.symm.trans goesOn)
          exact ⟨rfl, rfl, rfl, rfl, by simp⟩
      | _ => cases addressed

/-- An attempt that took its slot at the look after `front` is under way after `mid`. -/
structure UnderWay (config : Config) (id attempt : Nat) (front mid : List Label)
    (begun flight : Flight) (exchange : Exchange) : Prop where
  found : ((new config).run (front ++ .poll id :: mid)).flight? id = some flight
  stage : flight.stage = .exchanging exchange
  request : flight.request = begun.request
  same : exchange.attempt = attempt
  /-- The guard is new at the beginning, and has seen the notices of this attempt. -/
  guard : exchange.guard = begun.newGuard.after (Label.noticesTo id mid)
  deadline : exchange.deadline =
    flight.request.options.timeout.map (Clock.deadline ((new config).run front).now)
  looked : exchange.attended = true ↔ Label.IsLookedAt id mid

/-- The run up to the next step. -/
theorem run_through (world : World) (front mid : List Label) (look label : Label) :
    world.run (front ++ look :: (mid ++ [label])) =
      (world.run (front ++ look :: mid)).step label := by
  rw [← List.cons_append, ← List.append_assoc, run_append]
  rfl

namespace UnderWay

variable {config : Config} {attempt : Nat} {front mid : List Label} {begun : Flight}

/-- An attempt that has just taken its slot is under way. -/
theorem start
    (begins : (((new config).run front).step (.poll id)).flight? id =
      some (begun.onward
        (.exchanging (begun.newExchange attempt ((new config).run front).now)))) :
    UnderWay config id attempt front [] begun
      (begun.onward (.exchanging (begun.newExchange attempt ((new config).run front).now)))
      (begun.newExchange attempt ((new config).run front).now) where
  found := by
    rw [run_append]
    exact begins
  stage := rfl
  request := rfl
  same := rfl
  guard := rfl
  deadline := rfl
  looked := by simp [Flight.newExchange, Label.IsLookedAt]

/-- An attempt whose exchange goes on after a step is under way then. -/
theorem step (way : UnderWay config id attempt front mid begun flight exchange) (label : Label)
    {later : Flight} {there : Exchange}
    (after : (((new config).run (front ++ .poll id :: mid)).step label).flight? id = some later)
    (goesOn : later.stage = .exchanging there) :
    UnderWay config id attempt front (mid ++ [label]) begun later there := by
  have found : ((new config).run (front ++ .poll id :: (mid ++ [label]))).flight? id =
      some later := by
    rw [run_through]
    exact after
  by_cases addressed : label.id? = some id
  · have orderly := orderly_run config (front ++ .poll id :: mid)
    rw [flight?_step_exchanging orderly.nodup way.found way.stage addressed] at after
    obtain rfl := Option.some.inj after
    obtain ⟨request, attempt, deadline, guard, looked⟩ :=
      exchanged_cases way.stage addressed goesOn
    refine ⟨found, goesOn, request.trans way.request, attempt.trans way.same, ?_, ?_, ?_⟩
    · rw [guard, way.guard, Label.noticesTo_concat, SizeGuard.after_append]
    · rw [deadline, way.deadline, request]
    · rw [looked, way.looked, Label.isLookedAt_concat_iff]
  · rw [(sameFor_step _ addressed).1, way.found] at after
    obtain rfl := Option.some.inj after
    obtain rfl := Stage.exchanging.inj (way.stage.symm.trans goesOn)
    refine ⟨found, goesOn, way.request, way.same, ?_, way.deadline, ?_⟩
    · rw [Label.noticesTo_concat, Label.notice?_of_other addressed]
      simpa using way.guard
    · rw [way.looked, Label.isLookedAt_concat_iff]
      have notPoll : label ≠ .poll id := fun same => addressed (same ▸ rfl)
      have notPend : label ≠ .pend id := fun same => addressed (same ▸ rfl)
      simp [notPoll, notPend]

/-- The verdict on the attempt is that of its guard. -/
theorem verdict_iff (way : UnderWay config id attempt front mid begun flight exchange)
    {answer outcome : Outcome} :
    Verdict flight.request.options.maxResponseSize (Label.noticesTo id mid) answer outcome ↔
      exchange.guard.finish answer = outcome := by
  have fresh : begun.newGuard.exceeded = none := rfl
  rw [way.guard, way.request]
  exact SizeGuard.verdict_iff fresh (Label.noticesTo id mid)

end UnderWay

/-! ## How an attempt ends -/

/-- A turn of a request in its exchange that is not about an outcome gives back the slot if it leads
out of the exchange. -/
theorem ended_mem_iff {change : Change} (turn : Turn world flight change)
    (stage : flight.stage = .exchanging exchange)
    (quiet : ∀ signal ∈ change.signals, signal.isAftermath = false) (ending : Option Outcome) :
    .ended flight.id exchange.attempt ending ∈ change.signals ↔
      ending = none ∧ change.flight.stage.exchange? = none := by
  cases turn with
  | sever there _ | dropExchanging there =>
      obtain rfl := Stage.exchanging.inj (there.symm.trans stage)
      simp [Flight.verdict, Stage.exchange?]
  | tend there => simp [moving, Stage.exchange?]
  | surrender | retry | resolve => simp [Signal.isAftermath] at quiet
  | dropElsewhere _ notExchanging => simp [stage, Stage.exchange?] at notExchanging
  | _ there => cases there.symm.trans stage

/-- Without an outcome an exchange is over when its request is found cancelled, or is dropped. -/
theorem exchange?_exchanged_eq_none_iff (stage : flight.stage = .exchanging exchange)
    (addressed : label.id? = some id)
    (silent : exchange.answer? flight.request.options world.now label = none) :
    (world.exchanged flight exchange label).stage.exchange? = none ↔
      label = .poll id ∧ world.isCancelled flight = true ∨ label = .drop id := by
  simp only [exchanged, silent]
  cases label with
  | poll taken =>
      obtain rfl : taken = id := Option.some.inj addressed
      cases world.isCancelled flight <;> simp [Stage.exchange?]
  | drop taken =>
      obtain rfl : taken = id := Option.some.inj addressed
      simp [Stage.exchange?]
  | submit _ _ _ | complete _ _ => simp [stage, Stage.exchange?]
  | notify _ _ | pend _ => simp [Stage.exchange?]
  | _ => cases addressed

/-- A step tells of the end of an attempt if it gives the exchange an outcome, or if the exchange is
over without one. -/
theorem tells_ended_iff (found : world.flight? id = some flight)
    (stage : flight.stage = .exchanging exchange) (label : Label) (ending : Option Outcome) :
    world.Tells label (.ended id exchange.attempt ending) ↔
      label.id? = some id ∧
        ((∃ answer, exchange.answer? flight.request.options world.now label = some answer ∧
          ending = some (exchange.guard.finish answer)) ∨
        ending = none ∧
          (label = .poll id ∧ world.isCancelled flight = true ∨ label = .drop id)) := by
  by_cases addressed : label.id? = some id
  · obtain ⟨_, rfl⟩ := mem_of_flight? found
    simp only [addressed, true_and]
    cases answered : exchange.answer? flight.request.options world.now label with
    | some answer =>
        have loud : ¬ (label = .poll flight.id ∧ world.isCancelled flight = true ∨
            label = .drop flight.id) := by
          rintro (⟨rfl, _⟩ | rfl) <;> cases answered
        have others : ∀ outcome, Signal.ended flight.id exchange.attempt ending ∉
            flight.recordings exchange.attempt outcome ++
              [flight.sequel world.now exchange.attempt outcome] := by
          intro outcome
          unfold Flight.recordings Flight.sequel
          split <;> split <;> simp [Flight.verdict]
        rw [tells_iff_of_apply (step_of_answer found stage addressed answered), concluded,
          List.mem_cons]
        simp [others, loud]
    | none =>
        rw [← exchange?_exchanged_eq_none_iff stage addressed answered]
        rcases step_of_silence found stage addressed answered with
          ⟨idle, same⟩ | ⟨change, turn, after, listed, _, quiet⟩
        · simp [not_tells_of_journal (congrArg journal idle), same, stage, Stage.exchange?]
        · rw [tells_iff_of_apply after, ended_mem_iff turn stage quiet, listed]
          simp
  · simp only [addressed, false_and, iff_false]
    exact fun tells => addressed (tells.addressed rfl)

/-- An exchange whose end is not told goes on. -/
theorem goesOn_of_not_tells (nodup : (world.flights.map (·.id)).Nodup)
    (found : world.flight? id = some flight) (stage : flight.stage = .exchanging exchange)
    (label : Label) (quiet : ∀ ending, ¬ world.Tells label (.ended id exchange.attempt ending)) :
    ∃ later there, (world.step label).flight? id = some later ∧ later.stage = .exchanging there := by
  by_cases addressed : label.id? = some id
  · have table := flight?_step_exchanging nodup found stage addressed
    cases answered : exchange.answer? flight.request.options world.now label with
    | some answer =>
        exact absurd ((tells_ended_iff found stage label _).2
          ⟨addressed, .inl ⟨answer, answered, rfl⟩⟩) (quiet _)
    | none =>
        cases inside : (world.exchanged flight exchange label).stage.exchange? with
        | some there => exact ⟨_, there, table, Stage.exchange?_eq_some_iff.1 inside⟩
        | none =>
            have left := (exchange?_exchanged_eq_none_iff stage addressed answered).1 inside
            exact absurd ((tells_ended_iff found stage label _).2
              ⟨addressed, .inr ⟨rfl, left⟩⟩) (quiet none)
  · exact ⟨flight, exchange, ((world.sameFor_step addressed).1).trans found, stage⟩

/-- A request gets into an exchange only by a look at it. -/
theorem eq_poll_of_begins (nodup : (world.flights.map (·.id)).Nodup)
    (found : world.flight? id = some flight) (outside : flight.stage.exchange? = none)
    {later : Flight} (after : (world.step label).flight? id = some later)
    (begins : later.stage = .exchanging exchange) : label = .poll id := by
  have moves : later ≠ flight := by
    rintro rfl
    rw [begins] at outside
    cases outside
  by_contra noPoll
  by_cases noDrop : label = .drop id
  · subst noDrop
    cases live : flight.stage.isLive with
    | true =>
        rw [flight?_drop nodup found live] at after
        obtain rfl := Option.some.inj after
        cases begins
    | false =>
        rw [(sameFor_step_of_ended nodup found live _).1, found] at after
        exact moves (Option.some.inj after).symm
  · rw [(sameFor_step_of_outside found outside noPoll noDrop).1, found] at after
    exact moves (Option.some.inj after).symm

/-- An attempt whose transport was just called has just taken its slot, at a look at its request. -/
theorem begins_of_called {config : Config} {front : List Label} {attempt : Nat} {request : Request}
    {watched : Bool} {inFlight : Nat}
    (called : ((new config).run front).Tells label
      (.called id attempt request watched inFlight)) :
    label = .poll id ∧ ∃ begun, ((new config).run front).flight? id = some begun ∧
      UnderWay config id attempt front [] begun
        (begun.onward (.exchanging (begun.newExchange attempt ((new config).run front).now)))
        (begun.newExchange attempt ((new config).run front).now) := by
  have orderly := orderly_run config front
  obtain ⟨recent, grown, new⟩ := called
  obtain ⟨_, ⟨_, _, _, other⟩ | other | ⟨flight, member, change, turn, moved, _, present⟩⟩ :=
    (((World.new config).run front).step_move label).turn_of_mem grown new
  · cases other
  · cases other
  · obtain rfl : id = flight.id := Option.some.inj (turn.id?_of_mem_signals _ present)
    have found := flight?_of_mem orderly.nodup member
    have after := flight?_apply orderly.nodup member turn
    rw [← moved] at after
    cases turn with
    | enter stage live answer =>
        obtain rfl := (Signal.called.inj (List.mem_singleton.1 present)).2.1
        obtain rfl := eq_poll_of_begins orderly.nodup found (by rw [stage]; rfl) after rfl
        exact ⟨rfl, flight, found, .start after⟩
    | claim stage live answer =>
        obtain rfl := (Signal.called.inj (List.mem_singleton.1 present)).2.1
        obtain rfl := eq_poll_of_begins orderly.nodup found (by rw [stage]; rfl) after rfl
        exact ⟨rfl, flight, found, .start after⟩
    | _ => simp [moving, Flight.recordings, Flight.verdict] at present

/-- An attempt whose transport was called, and whose end was not told since, is under way. -/
theorem exists_underWay {config : Config} {front mid : List Label} {attempt : Nat}
    {begun flight : Flight}
    (way : UnderWay config id attempt front [] begun flight exchange)
    (unended : ∀ part label, part ++ [label] <+: mid → ∀ ending,
      ¬ ((new config).run (front ++ .poll id :: part)).Tells label (.ended id attempt ending)) :
    ∃ current there, UnderWay config id attempt front mid begun current there := by
  induction mid using List.reverseRecOn with
  | nil => exact ⟨flight, exchange, way⟩
  | append_singleton part label ih =>
      obtain ⟨current, there, during⟩ := ih fun earlier next shorter =>
        unended earlier next (shorter.trans (List.prefix_append ..))
      obtain ⟨later, further, after, goesOn⟩ :=
        goesOn_of_not_tells (orderly_run config _).nodup during.found during.stage label
          (during.same.symm ▸ unended part label (List.prefix_refl _))
      exact ⟨later, further, during.step label after goesOn⟩

/-- **An attempt that is under way ends in a step as the order of precedence says.** -/
theorem UnderWay.ends_iff {config : Config} {front mid : List Label} {attempt : Nat}
    {begun : Flight}
    (way : UnderWay config id attempt front mid begun flight exchange) (label : Label)
    (ending : Option Outcome) :
    ((new config).run (front ++ .poll id :: mid)).Tells label (.ended id attempt ending) ↔
      AttemptEnd id flight.request.options
        (((new config).run (front ++ .poll id :: mid)).isCancelled flight)
        (Label.IsLookedAt id mid) ((new config).run front).now
        ((new config).run (front ++ .poll id :: mid)).now (Label.noticesTo id mid) label ending := by
  rw [← way.same, tells_ended_iff way.found way.stage]
  constructor
  · rintro ⟨addressed, ⟨answer, answered, rfl⟩ | ⟨rfl, ⟨rfl, cancelled⟩ | rfl⟩⟩
    · obtain ⟨_, ⟨taken, rfl⟩ | ⟨taken, _, rfl, _⟩⟩ := Exchange.answer?_cases answered
      · obtain rfl : taken = id := Option.some.inj addressed
        obtain ⟨attended, _⟩ := Exchange.answer?_complete_iff.1 answered
        exact .answered (way.looked.1 attended) (way.verdict_iff.2 rfl)
      · obtain rfl : taken = id := Option.some.inj addressed
        obtain ⟨attended, deadline, limit, timed, allowed, due, rfl⟩ :=
          Exchange.answer?_pend_iff.1 answered
        rw [way.deadline, allowed, Option.map_some, Option.some.injEq] at timed
        exact .expired (way.looked.1 attended) allowed (timed ▸ due) (way.verdict_iff.2 rfl)
    · exact .severed cancelled
    · exact .abandoned
  · rintro (⟨struck⟩ | ⟨attended, verdict⟩ | ⟨attended, allowed, due, verdict⟩ | _)
    · exact ⟨rfl, .inr ⟨rfl, .inl ⟨rfl, struck⟩⟩⟩
    · refine ⟨rfl, .inl ⟨_, Exchange.answer?_complete_iff.2 ⟨way.looked.2 attended, rfl⟩, ?_⟩⟩
      rw [way.verdict_iff.1 verdict]
    · have timed := way.deadline
      rw [allowed, Option.map_some] at timed
      refine ⟨rfl, .inl ⟨_, Exchange.answer?_pend_iff.2
        ⟨way.looked.2 attended, _, _, timed, allowed, due, rfl⟩, ?_⟩⟩
      rw [way.verdict_iff.1 verdict]
    · exact ⟨rfl, .inr ⟨rfl, .inr rfl⟩⟩

/-- **The outcome of one attempt is decided in order of precedence**, for every behaviour of its
transport, every cap and time limit, and whenever its token is cancelled. Consider an attempt whose
transport was called, and whose end was not told since.

* It took its slot at a look at its request.
* It ends in the next step if the request is looked at and its token was cancelled, if the transport,
  being looked at, answers, if the transport has no answer and the time is over that counts from the
  look at which the attempt took its slot, or if the caller walks away; and in no other case
  (`AttemptEnd`). With an answer, or with the failure of an attempt whose time is over, the verdict is
  first that on the notices of this attempt: the first excess. Otherwise it is that failure or answer,
  unless the body is larger than the cap (`Verdict`).
* If the request is looked at and its token was cancelled, that is its result, whatever the transport
  has done and whatever the notices were. -/
theorem attempt_outcome (config : Config) (front mid : List Label) (look : Label)
    {id attempt : Nat} {request : Request} {watched : Bool} {inFlight : Nat}
    (called : ((new config).run front).Tells look (.called id attempt request watched inFlight))
    (unended : ∀ part label, part ++ [label] <+: mid → ∀ ending,
      ¬ ((new config).run (front ++ look :: part)).Tells label (.ended id attempt ending)) :
    let world : World := (new config).run (front ++ look :: mid)
    look = .poll id ∧
      ∃ flight, world.flight? id = some flight ∧
        (∀ label ending, world.Tells label (.ended id attempt ending) ↔
          AttemptEnd id flight.request.options (world.isCancelled flight) (Label.IsLookedAt id mid)
            ((new config).run front).now world.now (Label.noticesTo id mid) label ending) ∧
        (world.isCancelled flight = true → (world.step (.poll id)).flight? id =
          some (flight.onward (.finished (.error .cancelled)))) := by
  intro world
  obtain ⟨rfl, begun, _, begins⟩ := begins_of_called called
  obtain ⟨flight, exchange, way⟩ := exists_underWay begins unended
  refine ⟨rfl, flight, way.found, way.ends_iff, fun cancelled => ?_⟩
  rw [flight?_poll (orderly_run config _).nodup way.found, polled, way.stage]
  exact congrArg (fun stage => some (flight.onward stage)) (if_pos cancelled)

/-! ### A transport that ignores the answer

A request allows ten bytes and one second. Its transport reports a thousand bytes, ignores that this
is too much, and has nothing else to say for two seconds. -/

/-- The request. -/
def cappedRequest : Request :=
  { method := .get, url := plainUrl
    options := { maxResponseSize := some 10, timeout := some (Span.ofSeconds 1) } }

/-- The request comes to the gate. -/
def arrivingRun : List Label := [.submit 0 cappedRequest none, .poll 0, .poll 0]

/-- The transport reports a thousand bytes, and then time passes. -/
def heedlessRun : List Label := [.poll 0, .notify 0 ⟨1000, none⟩, .advance 2000000000]

/-- The attempt ends with the notice, whether the transport answers now or the time is over. -/
theorem attempt_outcome_heedlessRun :
    let world : World := (new {}).run (arrivingRun ++ .poll 0 :: heedlessRun)
    world.Tells (.complete 0 (.ok {})) (.ended 0 1 (some (.error (.tooLarge 1000)))) ∧
      world.Tells (.pend 0) (.ended 0 1 (some (.error (.tooLarge 1000)))) := by
  intro world
  have called : ((new {}).run arrivingRun).Tells (.poll 0)
      (.called 0 1 (prepare {} cappedRequest) true 1) := ⟨[_], rfl, List.mem_singleton.2 rfl⟩
  have still : (((new {}).run (arrivingRun ++ [.poll 0])).run heedlessRun).journal =
      ((new {}).run (arrivingRun ++ [.poll 0])).journal := rfl
  obtain ⟨_, flight, found, ends, _⟩ := attempt_outcome {} arrivingRun heedlessRun (.poll 0) called
    fun part label shorter ending => not_tells_of_still still shorter _
  have options : flight.request.options = cappedRequest.options := by
    obtain rfl := Option.some.inj (found.symm.trans (show world.flight? 0 = some _ from rfl))
    rfl
  have excess : ∀ answer, Verdict (some 10) [⟨1000, none⟩] answer (.error (.tooLarge 1000)) :=
    fun answer => .exceeded ⟨[], _, [], rfl, by simp, 10, rfl, by decide, .inl rfl⟩
  have looked : Label.IsLookedAt 0 heedlessRun :=
    ⟨[], [.notify 0 ⟨1000, none⟩, .advance 2000000000], rfl, by simp⟩
  refine ⟨(ends _ _).2 ?_, (ends _ _).2 ?_⟩
  · rw [options]
    exact .answered looked (excess _)
  · rw [options]
    exact .expired looked rfl (by decide) (excess _)

end World

end ResilientHttp
