import ResilientHttp.Proofs.Telemetry.Digest

/-!
# Metrics and traces agree with what happened

What a metric shows is the sum of what the single requests add to it, and what a request adds to it
follows from its tale (`World.telemetry_agrees`). A request that has its result was counted once, with
its method and its result, and its end stands once in the trace. A request without a result, dropped
or on its way, was not counted and has no such entry.

A retry is counted when it is scheduled, which is before its pause. Therefore a request has as many
retries as exchanges if it ended after a retry was scheduled and before another exchange began, and
one less otherwise.
-/

set_option autoImplicit false

namespace ResilientHttp

namespace World

/-- The signals about a request, oldest first. -/
def signalsOf (world : World) (id : Nat) : List Signal := (world.tale id).map (·.2)

/-- What a request adds to a metric. -/
def adds (world : World) (id : Nat) (metric : Metric) : Int :=
  (Metrics.ofSignals (world.signalsOf id)).value metric

/-- The entries of a request in the trace that have one of some names. -/
def entries (world : World) (id : Nat) (names : List String) : List TraceEntry :=
  Trace.named names (Trace.ofSignals (world.signalsOf id))

/-! ## Every metric is a sum over the requests -/

/-- What is told of requests, told request by request. -/
theorem sum_by_request {ids : List Nat} (nodup : ids.Nodup) (amount : Signal → Int)
    (nobody : ∀ signal, signal.id? = none → amount signal = 0) {signals : List Signal}
    (known : ∀ signal ∈ signals, ∀ id, signal.id? = some id → id ∈ ids) :
    (signals.map amount).sum =
      (ids.map fun id =>
        ((signals.filter fun signal => signal.id? == some id).map amount).sum).sum := by
  induction signals with
  | nil => simp
  | cons first rest ih =>
      have step : ∀ id,
          (((first :: rest).filter fun signal => signal.id? == some id).map amount).sum =
            (if first.id? = some id then amount first else 0) +
              ((rest.filter fun signal => signal.id? == some id).map amount).sum := by
        intro id
        by_cases about : first.id? = some id <;> simp [about]
      have own : (ids.map fun id => if first.id? = some id then amount first else 0).sum =
          amount first := by
        cases named : first.id? with
        | none => simp [nobody first named]
        | some id =>
            have listed := known first (List.mem_cons_self ..) id named
            rw [List.sum_map_eq_nsmul_single id _ fun other differ _ =>
                if_neg (by simp [Ne.symm differ]), List.count_eq_one_of_mem nodup listed]
            simp
      rw [List.map_cons, List.sum_cons, ih fun signal member => known signal (.tail _ member)]
      simp only [step, List.sum_map_add, own]

/-- The signals of a request are those of the history that are about it. -/
theorem filter_history (world : World) (id : Nat) :
    world.history.filter (fun signal => signal.id? == some id) = world.signalsOf id := by
  simp only [history, signalsOf, tale, List.filter_reverse, List.filter_map, List.map_reverse]
  rfl

/-- **A metric shows what the requests add to it, all together.** -/
theorem value_eq_sum_adds {config : Config} {world : World} (orderly : world.Orderly config)
    (narrated : world.Narrated config) (metric : Metric) :
    (Metrics.ofSignals world.history).value metric =
      (world.flights.map fun flight => world.adds flight.id metric).sum := by
  have nobody : ∀ signal : Signal, signal.id? = none → metric.amount signal = 0 := by
    intro signal none
    cases signal <;> first | rfl | cases none
  have known : ∀ signal ∈ world.history, ∀ id, signal.id? = some id →
      id ∈ world.flights.map (·.id) := by
    intro signal member id about
    rw [history, List.mem_reverse, List.mem_map] at member
    obtain ⟨entry, present, rfl⟩ := member
    exact List.mem_map.2 (narrated.known entry present id about)
  rw [Metrics.value_ofSignals, sum_by_request orderly.nodup metric.amount nobody known,
    List.map_map]
  refine congrArg List.sum (List.map_congr_left fun flight _ => ?_)
  simp only [Function.comp_apply, filter_history, adds, Metrics.value_ofSignals]

/-! ## Requests without a result -/

end World

/-- Whether the signal comes only with the result of a request. -/
def Signal.concludes (signal : Signal) : Bool := signal.isFinish || signal.isRejection

/-- A turn that leaves its request without a result says nothing that comes only with one. -/
theorem Turn.not_concludes {world : World} {flight : Flight} {change : Change}
    (turn : Turn world flight change) (unfinished : change.flight.stage.result? = none) :
    flight.stage.result? = none ∧ ∀ signal ∈ change.signals, signal.concludes = false := by
  have recordings : ∀ attempt outcome, ∀ signal ∈ flight.recordings attempt outcome,
      signal.concludes = false := by
    intro attempt outcome signal member
    unfold Flight.recordings at member
    split at member
    · rw [List.mem_singleton.1 member]
      rfl
    · cases member
  cases turn with
  | start stage =>
      refine ⟨by rw [stage]; rfl, fun signal member => ?_⟩
      obtain ⟨url, _, rfl⟩ := List.mem_map.1 member
      rfl
  | pass stage => exact ⟨by rw [stage]; rfl, by simp [Signal.concludes, Signal.isFinish,
      Signal.isRejection]⟩
  | enter stage => exact ⟨by rw [stage]; rfl, by simp [Signal.concludes, Signal.isFinish,
      Signal.isRejection]⟩
  | queue stage => exact ⟨by rw [stage]; rfl, by simp⟩
  | claim stage => exact ⟨by rw [stage]; rfl, by simp [Signal.concludes, Signal.isFinish,
      Signal.isRejection]⟩
  | wait stage => exact ⟨by rw [stage]; rfl, by simp⟩
  | tend stage => exact ⟨by rw [stage]; rfl, by simp [World.moving]⟩
  | retry stage outcome =>
      refine ⟨by rw [stage]; rfl, fun signal member => ?_⟩
      rcases List.mem_cons.1 member with rfl | later
      · rfl
      · rcases List.mem_append.1 later with recorded | last
        · exact recordings _ outcome signal recorded
        · rw [List.mem_singleton.1 last]
          rfl
  | resume stage => exact ⟨by rw [stage]; rfl, by simp [World.moving]⟩
  | dropQueued stage => exact ⟨by rw [stage]; rfl, by simp⟩
  | dropExchanging stage => exact ⟨by rw [stage]; rfl, by simp [Signal.concludes, Signal.isFinish,
      Signal.isRejection]⟩
  | dropElsewhere _ _ noResult => exact ⟨noResult, by simp [World.moving]⟩
  | _ => cases unfinished

namespace World

/-- Nothing that comes only with a result is told of a request without one. -/
def Unconcluded (world : World) : Prop :=
  ∀ flight ∈ world.flights, flight.stage.result? = none →
    ∀ signal ∈ world.signalsOf flight.id, signal.concludes = false

theorem mem_signalsOf_note {world : World} {told signal : Signal} {id : Nat}
    (member : signal ∈ (world.note told).signalsOf id) :
    signal ∈ world.signalsOf id ∨ signal = told := by
  unfold signalsOf at member ⊢
  by_cases about : told.id? = some id
  · rw [tale_note world about, List.map_append, List.mem_append] at member
    exact member.imp_right List.mem_singleton.1
  · rw [tale_note_of_ne world about] at member
    exact .inl member

theorem Unconcluded.move {config : Config} {world after : World}
    (unconcluded : world.Unconcluded) (narrated : world.Narrated config)
    (move : Move world after) : after.Unconcluded := by
  cases move with
  | submit id request watcher fresh =>
      intro flight member unfinished signal present
      rcases mem_signalsOf_note present with old | rfl
      · rcases List.mem_append.1 member with older | newest
        · exact unconcluded flight older unfinished signal old
        · obtain rfl := List.mem_singleton.1 newest
          simp [signalsOf, narrated.tale_eq_nil fresh] at old
      · rfl
  | @turn flight change member turn =>
      intro other present unfinished
      rcases (mem_flights_apply world change other).1 present with ⟨rfl, _⟩ | ⟨older, differ⟩
      · obtain ⟨before, silent⟩ := turn.not_concludes unfinished
        intro signal told
        rw [signalsOf, turn.id_eq, tale_apply turn, List.map_append, List.mem_append] at told
        rcases told with old | new
        · exact unconcluded flight member before signal old
        · simp only [List.map_map, List.mem_map, Function.comp_apply, exists_eq_right] at new
          exact silent signal new
      · rw [turn.id_eq] at differ
        rw [signalsOf, tale_apply_of_ne turn differ]
        exact unconcluded other older unfinished
  | shutDown =>
      intro flight member unfinished signal present
      rcases mem_signalsOf_note present with old | rfl
      · exact unconcluded flight member unfinished signal old
      · rfl
  | _ => exact unconcluded

theorem unconcluded_run (config : Config) (labels : List Label) :
    ((new config).run labels).Unconcluded := by
  have both := invariant config
    (fun world => world.Narrated config ∧ world.Unconcluded)
    ⟨narrated_new config, fun _ member => by cases member⟩
    (fun _ _ kept move => ⟨kept.1.move move, kept.2.move kept.1 move⟩) labels
  exact both.2

end World

/-! ## What is reported of a request -/

namespace World

/-- **Every request with a result has a tale of the same parts.** -/
theorem exists_digest (config : Config) (labels : List Label) {flight : Flight}
    (member : flight ∈ ((new config).run labels).flights) {result : Outcome}
    (stage : flight.stage = .finished result) :
    Nonempty (Digest config flight result (((new config).run labels).signalsOf flight.id)) := by
  have told := (narrated_run config labels).told flight member
  rw [stage] at told
  obtain ⟨rounds, past, ending, ⟨_, ⟨submitted, _, rfl⟩, fit⟩, fits, settled, whole⟩ := told
  refine ⟨{ opening := (flight.opening submitted).map (·.2), rounds, ending, fit, fits, settled
            parts := ?_, plain := ?_ }⟩
  · rw [signalsOf, whole, List.map_append, List.map_append, List.append_assoc]
    rfl
  · intro signal known
    simp only [Flight.opening, List.map_cons, List.map_map, List.mem_cons, List.mem_map,
      Function.comp_apply] at known
    rcases known with rfl | ⟨url, _, rfl⟩
    · exact .inl ⟨_, _, rfl⟩
    · exact .inr ⟨url, rfl⟩

/-- How many exchanges a request began. -/
def exchangesOf (world : World) (id : Nat) : Nat := (world.signalsOf id).countP Signal.isCall

/-- The host of a request was open before its next attempt: that is its result, and it is not an
exchange that ended so. -/
def WasRejected (world : World) (flight : Flight) (result : Outcome) : Prop :=
  result = .error .circuitOpen ∧
    ∀ attempt, .ended flight.id attempt (some (.error .circuitOpen)) ∉ world.signalsOf flight.id

/-- What metrics and the trace say of a request that has its result. -/
structure Reported (world : World) (flight : Flight) (result : Outcome) : Prop where
  /-- It was counted once, with its method and the way it ended. -/
  counted : ∀ metric : Metric, metric.name = "haul_requests_total" →
    world.adds flight.id metric =
      if metric = .requests flight.request.method result then 1 else 0
  /-- Its end is shown once. -/
  completed : ∃ moment,
    world.entries flight.id ["request completed", "request failed"] =
      [match result with
        | .ok response =>
          { name := "request completed", level := .info
            fields := [("status", .number response.status),
              ("elapsed_ms", Trace.millis (Clock.elapsed flight.started moment))] }
        | .error failure =>
          { name := "request failed", level := .warn
            fields := [("error", .text failure.message),
              ("elapsed_ms", Trace.millis (Clock.elapsed flight.started moment))] }]
  /-- Without an exchange there was no retry. -/
  unretried : world.exchangesOf flight.id = 0 →
    world.adds flight.id (.retries flight.request.method) = 0
  /-- The last retry was counted although no exchange came of it. -/
  backedOff : EndsInBackoff (world.signalsOf flight.id) →
    world.adds flight.id (.retries flight.request.method) =
      (world.exchangesOf flight.id : Int) ∧
      (result = .error .circuitOpen ∨ result = .error .cancelled ∨ result = .error .gateClosed)
  /-- Otherwise every exchange but the first came of a retry. -/
  retried : world.exchangesOf flight.id ≠ 0 → ¬ EndsInBackoff (world.signalsOf flight.id) →
    world.adds flight.id (.retries flight.request.method) =
      (world.exchangesOf flight.id : Int) - 1
  /-- Every retry that was counted is shown, and none was counted with another method. -/
  shown : ∀ metric : Metric, metric.name = "haul_retries_total" →
    world.adds flight.id metric =
      if metric = .retries flight.request.method then
        ((world.entries flight.id ["retrying request"]).length : Int)
      else 0
  /-- Its attempts are shown in order, with their numbers, and no more than one of them came to no
  exchange. -/
  numbered : ∃ attempts,
    (world.exchangesOf flight.id ≤ attempts ∧ attempts ≤ world.exchangesOf flight.id + 1) ∧
    world.entries flight.id ["sending request"] =
      (List.range' 1 attempts).map fun number =>
        { name := "sending request", level := .debug
          fields := [("attempt", .number number), ("host", .text flight.host.text)] }
  /-- It was counted and shown as rejected if its host was open before its next attempt. -/
  rejected : world.WasRejected flight result →
    world.adds flight.id .rejections = 1 ∧
      world.entries flight.id ["circuit breaker open, request rejected"] =
        [{ name := "circuit breaker open, request rejected", level := .warn
           fields := [("host", .text flight.host.text)] }]
  /-- Otherwise neither. -/
  unrejected : ¬ world.WasRejected flight result →
    world.adds flight.id .rejections = 0 ∧
      world.entries flight.id ["circuit breaker open, request rejected"] = []

/-- What metrics and the trace say of a request that has no result. -/
structure Unreported (world : World) (flight : Flight) : Prop where
  counted : ∀ metric : Metric, metric.name = "haul_requests_total" →
    world.adds flight.id metric = 0
  completed : world.entries flight.id ["request completed", "request failed"] = []
  rejections : world.adds flight.id .rejections = 0
  rejected : world.entries flight.id ["circuit breaker open, request rejected"] = []

theorem Reported.of_digest {config : Config} {world : World} {flight : Flight} {result : Outcome}
    (digest : Digest config flight result (world.signalsOf flight.id)) :
    world.Reported flight result := by
  have retries : world.adds flight.id (.retries flight.request.method) = digest.rounds.length :=
    (digest.value_retries rfl).trans (if_pos rfl)
  have exchanges : world.exchangesOf flight.id =
      digest.rounds.length + digest.ending.exchanges := digest.countP_isCall
  obtain ⟨sent, once⟩ := digest.ending.exchanges_le
  refine
    { counted := fun _ named => digest.value_requests named, completed := ⟨digest.ending.moment, ?_⟩
      unretried := fun none => ?_, backedOff := fun ended => ?_, retried := fun some further => ?_
      shown := fun metric named => ?_, numbered := ⟨_, ⟨?_, ?_⟩, digest.named_sendings⟩
      rejected := fun rejected => ?_, unrejected := fun passed => ?_ }
  · rw [entries, digest.named_completions]
    cases result <;> rfl
  · rw [retries]
    omega
  · obtain ⟨_, none⟩ := digest.endsInBackoff_iff.1 ended
    refine ⟨by rw [retries]; omega, ?_⟩
    rw [digest.settled]
    exact Ending.result_of_exchanges_eq_zero digest.fits none
  · have one : digest.ending.exchanges ≠ 0 := by
      intro none
      have rounds : digest.rounds ≠ [] := fun empty => some (by simp [exchanges, empty, none])
      exact further (digest.endsInBackoff_iff.2 ⟨rounds, none⟩)
    rw [retries]
    omega
  · rw [entries, digest.length_named_retries]
    exact digest.value_retries named
  · omega
  · omega
  · have found := digest.isRejected_iff.2 rejected
    exact ⟨digest.value_rejections.trans (if_pos found),
      digest.named_rejections.trans (if_pos found)⟩
  · have passing : ¬ digest.ending.isRejected = true := fun found =>
      passed (digest.isRejected_iff.1 found)
    exact ⟨digest.value_rejections.trans (if_neg passing),
      digest.named_rejections.trans (if_neg passing)⟩

theorem Unreported.of_silent {world : World} {flight : Flight}
    (silent : ∀ signal ∈ world.signalsOf flight.id, signal.concludes = false) :
    world.Unreported flight := by
  have noFinish : (world.signalsOf flight.id).filter Signal.isFinish = [] :=
    List.filter_eq_nil_iff.2 fun signal member finish => by
      simpa [Signal.concludes, finish] using silent signal member
  have noRejection : (world.signalsOf flight.id).filter Signal.isRejection = [] :=
    List.filter_eq_nil_iff.2 fun signal member rejection => by
      simpa [Signal.concludes, rejection] using silent signal member
  refine ⟨fun metric named => ?_, ?_, ?_, ?_⟩
  · rw [adds, Metrics.value_of_requests named, noFinish]
    rfl
  · rw [entries, Trace.named_of_kind (fun _ _ shown => (Trace.contains_name shown).1), noFinish]
    rfl
  · rw [adds, Metrics.value_of_rejections rfl, noRejection]
    rfl
  · rw [entries, Trace.named_of_kind (fun _ _ shown => (Trace.contains_name shown).2.2.2),
      noRejection]
    rfl

/-- **Metrics and the trace agree with what happened.** In every run of a client, whatever the order
of its steps:

* Every metric is the sum of what the single requests add to it.
* A request that has its result was counted once, with its method and its result, and its end is
  shown once. It has as many retries as exchanges if it ended after a retry and before another
  exchange, none if it had no exchange, and one less than exchanges otherwise. Every retry is shown,
  the attempts are shown in order, and a rejection is counted and shown once if it was its own
  breaker that ended the request, and never otherwise.
* A request without a result, on its way or dropped, was not counted, and no end of it is shown. -/
theorem telemetry_agrees (config : Config) (labels : List Label) :
    let world := (new config).run labels
    (∀ metric, (Metrics.ofSignals world.history).value metric =
      (world.flights.map fun flight => world.adds flight.id metric).sum) ∧
    (∀ flight ∈ world.flights, ∀ result, flight.stage = .finished result →
      world.Reported flight result) ∧
    (∀ flight ∈ world.flights, flight.stage.result? = none → world.Unreported flight) := by
  intro world
  refine ⟨?_, fun flight member result stage => ?_, fun flight member unfinished => ?_⟩
  · exact value_eq_sum_adds (orderly_run config labels) (narrated_run config labels)
  · obtain ⟨digest⟩ := exists_digest config labels member stage
    exact .of_digest digest
  · exact .of_silent (unconcluded_run config labels flight member unfinished)

/-! ### Three ways to end

The first request is cancelled while it pauses after a failure. The second is dropped on its way to
the gate. The third comes in after the failure, which opened the host. -/

/-- A client whose hosts are opened by one failure. -/
def waryConfig : Config := { breaker := some ⟨1, Span.ofNanos 1000, Nat.one_pos⟩ }

/-- The steps of the three requests. -/
def abandonedRun : List Label :=
  [.submit 0
      { method := .get, url := plainUrl
        options := { cancellation := some "stop", retry := some ⟨2, Span.ofNanos 50⟩ } } none,
    .submit 1 { method := .post, url := plainUrl } none,
    .poll 0, .poll 0, .poll 0, .poll 0, .poll 1, .complete 0 (.ok { status := 503 }), .drop 1,
    .cancel "stop", .poll 0, .submit 2 { method := .put, url := plainUrl } none, .poll 2, .poll 2]

/-- The world after the three requests. -/
def abandonedWorld : World := (new waryConfig).run abandonedRun

/-- The retry of the first request is counted like its exchange, the second request is not counted,
and the third is counted as rejected. -/
theorem telemetry_agrees_abandonedRun :
    (Metrics.ofSignals abandonedWorld.history).value .rejections =
      (abandonedWorld.flights.map fun flight => abandonedWorld.adds flight.id .rejections).sum ∧
    abandonedWorld.adds 0 (.retries .get) = abandonedWorld.exchangesOf 0 ∧
    (∀ outcome, abandonedWorld.adds 1 (.requests .post outcome) = 0) ∧
    abandonedWorld.adds 2 .rejections = 1 := by
  obtain ⟨sums, reported, unreported⟩ := telemetry_agrees waryConfig abandonedRun
  have backedOff : EndsInBackoff (abandonedWorld.signalsOf 0) := by decide +kernel
  have noExchange : (abandonedWorld.signalsOf 2).all (fun signal =>
      match signal with
      | .ended _ _ _ => false
      | _ => true) = true := by
    decide +kernel
  have cancelled : ∃ flight ∈ abandonedWorld.flights, flight.id = 0 ∧
      flight.request.method = .get ∧ flight.stage.result? = some (.error .cancelled) := by
    decide +kernel
  have dropped : ∃ flight ∈ abandonedWorld.flights, flight.id = 1 ∧
      flight.stage.result? = none := by
    decide +kernel
  have rejected : ∃ flight ∈ abandonedWorld.flights, flight.id = 2 ∧
      flight.stage.result? = some (.error .circuitOpen) := by
    decide +kernel
  refine ⟨sums .rejections, ?_, fun outcome => ?_, ?_⟩
  · obtain ⟨flight, member, named, method, result⟩ := cancelled
    have report := reported flight member _ (Stage.result?_eq_some_iff.1 result)
    rw [← named] at backedOff ⊢
    rw [← method]
    exact (report.backedOff backedOff).1
  · obtain ⟨flight, member, named, result⟩ := dropped
    rw [← named]
    exact (unreported flight member result).counted (.requests .post outcome) rfl
  · obtain ⟨flight, member, named, result⟩ := rejected
    have report := reported flight member _ (Stage.result?_eq_some_iff.1 result)
    rw [← named] at noExchange ⊢
    refine (report.rejected ⟨rfl, fun attempt ended => ?_⟩).1
    cases List.all_eq_true.1 noExchange _ ended

end World

end ResilientHttp
