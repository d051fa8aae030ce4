import ResilientHttp.Proofs.Engine.Course
import ResilientHttp.Proofs.Telemetry.Readings
import ResilientHttp.Telemetry.Trace

/-!
# A tale by kinds of signals

A metric and a name in a trace belong to one kind of signal each: a retry, a rejection, the end of a
request, the sending of an attempt. So what a tale adds to a metric, and which of its entries have a
given name, can be read off its signals of that kind (`Metrics.value_of_kind`, `Trace.named_of_kind`).

For the tale of a request that has its result these signals are listed here, part by part: there are
none in the opening, one retry and one attempt in each round, and whatever the ending has.
-/

set_option autoImplicit false

namespace ResilientHttp

namespace Signal

/-- Whether another attempt is to follow. -/
def isRetry : Signal → Bool
  | retrying _ _ _ _ _ => true
  | _ => false

/-- Whether the host was found open. -/
def isRejection : Signal → Bool
  | rejected _ _ => true
  | _ => false

/-- Whether an attempt goes to the gate. -/
def isSending : Signal → Bool
  | sending _ _ _ => true
  | _ => false

/-- Whether a request has its result. -/
def isFinish : Signal → Bool
  | finished _ _ _ _ => true
  | _ => false

end Signal

/-! ## Metrics and traces by kinds -/

/-- Finished requests are counted when a request has its result. -/
theorem Metric.amount_of_requests {metric : Metric} (named : metric.name = "haul_requests_total")
    (signal : Signal) :
    metric.amount signal =
      match signal with
      | .finished _ method result _ => if metric = .requests method result then 1 else 0
      | _ => 0 := by
  cases signal with
  | rejected | called | ended | retrying =>
      exact if_neg fun same => by simp [same, rejections, inFlight, retries] at named
  | _ => rfl

/-- Retries are counted when another attempt is to follow. -/
theorem Metric.amount_of_retries {metric : Metric} (named : metric.name = "haul_retries_total")
    (signal : Signal) :
    metric.amount signal =
      match signal with
      | .retrying _ _ method _ _ => if metric = .retries method then 1 else 0
      | _ => 0 := by
  cases signal with
  | rejected | called | ended | finished =>
      exact if_neg fun same => by simp [same, rejections, inFlight, requests] at named
  | _ => rfl

/-- Rejections are counted when a host is found open. -/
theorem Metric.amount_of_rejections {metric : Metric}
    (named : metric.name = "haul_circuit_breaker_rejections_total") (signal : Signal) :
    metric.amount signal =
      match signal with
      | .rejected _ _ => if metric = .rejections then 1 else 0
      | _ => 0 := by
  cases signal with
  | called | ended | retrying | finished =>
      exact if_neg fun same => by simp [same, inFlight, retries, requests] at named
  | _ => rfl

/-- What signals add to a metric that one kind of signals adds to. -/
theorem Metrics.value_of_kind {metric : Metric} {kind : Signal → Bool}
    (only : ∀ signal, kind signal = false → metric.amount signal = 0) (signals : List Signal) :
    (Metrics.ofSignals signals).value metric =
      ((signals.filter kind).map metric.amount).sum := by
  rw [Metrics.value_ofSignals]
  induction signals with
  | nil => rfl
  | cons first rest ih =>
      cases known : kind first with
      | true => rw [List.filter_cons_of_pos known, List.map_cons, List.map_cons, List.sum_cons,
          List.sum_cons, ih]
      | false => rw [List.filter_cons_of_neg (by simp [known]), List.map_cons, List.sum_cons, ih,
          only first known, zero_add]

theorem Metrics.value_of_requests {metric : Metric} (named : metric.name = "haul_requests_total")
    (signals : List Signal) :
    (ofSignals signals).value metric =
      ((signals.filter Signal.isFinish).map metric.amount).sum := by
  refine value_of_kind (fun signal other => ?_) signals
  rw [Metric.amount_of_requests named]
  cases signal <;> first | rfl | cases other

theorem Metrics.value_of_retries {metric : Metric} (named : metric.name = "haul_retries_total")
    (signals : List Signal) :
    (ofSignals signals).value metric =
      ((signals.filter Signal.isRetry).map metric.amount).sum := by
  refine value_of_kind (fun signal other => ?_) signals
  rw [Metric.amount_of_retries named]
  cases signal <;> first | rfl | cases other

theorem Metrics.value_of_rejections {metric : Metric}
    (named : metric.name = "haul_circuit_breaker_rejections_total") (signals : List Signal) :
    (ofSignals signals).value metric =
      ((signals.filter Signal.isRejection).map metric.amount).sum := by
  refine value_of_kind (fun signal other => ?_) signals
  rw [Metric.amount_of_rejections named]
  cases signal <;> first | rfl | cases other

/-- The entries that have one of some names. -/
def Trace.named (names : List String) (trace : List TraceEntry) : List TraceEntry :=
  trace.filter fun entry => names.contains entry.name

/-- The entries with names that one kind of signals has. -/
theorem Trace.named_of_kind {names : List String} {kind : Signal → Bool}
    (fits : ∀ signal entry, Trace.entry? signal = some entry →
      names.contains entry.name = kind signal)
    (signals : List Signal) :
    Trace.named names (Trace.ofSignals signals) =
      (signals.filter kind).filterMap Trace.entry? := by
  rw [Trace.named, Trace.ofSignals, List.filter_filterMap, List.filterMap_filter]
  refine List.filterMap_congr fun signal _ => ?_
  cases shown : Trace.entry? signal with
  | none => simp
  | some entry => simp only [Option.filter_some, fits signal entry shown]

/-- The name of an entry tells of which kind the signal is that it shows. -/
theorem Trace.contains_name {signal : Signal} {entry : TraceEntry}
    (shown : entry? signal = some entry) :
    ["request completed", "request failed"].contains entry.name = signal.isFinish ∧
    ["retrying request"].contains entry.name = signal.isRetry ∧
    ["sending request"].contains entry.name = signal.isSending ∧
    ["circuit breaker open, request rejected"].contains entry.name = signal.isRejection := by
  cases signal with
  | finished id method result elapsed =>
      cases result <;> cases shown <;> exact ⟨rfl, rfl, rfl, rfl⟩
  | _ => cases shown <;> exact ⟨rfl, rfl, rfl, rfl⟩

/-! ## The rounds of a tale -/

namespace Rounds

variable (config : Config) (id : Nat) (request : Request) (attempt : Nat) (rounds : Rounds)

/-- The signals of rounds, without their moments. -/
def told : List Signal := (signals config id request attempt rounds).map (·.2)

theorem told_cons (round : Round) :
    told config id request attempt (round :: rounds) =
      .sending id attempt (.ofUrl request.url) ::
      .called id attempt (prepare config request) round.passage.watched round.passage.inFlight ::
      .ended id attempt (some round.outcome) :: .recorded id attempt (.ofUrl request.url) ::
      .retrying id attempt request.method round.outcome round.delay ::
      told config id request (attempt + 1) rounds := rfl

/-- The last signal of rounds says that another attempt is to follow. -/
theorem told_concat (round : Round) :
    told config id request attempt (rounds ++ [round]) =
      (told config id request attempt rounds ++
        [.sending id (attempt + rounds.length) (.ofUrl request.url),
          .called id (attempt + rounds.length) (prepare config request) round.passage.watched
            round.passage.inFlight,
          .ended id (attempt + rounds.length) (some round.outcome),
          .recorded id (attempt + rounds.length) (.ofUrl request.url)]) ++
        [.retrying id (attempt + rounds.length) request.method round.outcome round.delay] := by
  rw [told, signals_concat, List.map_append, List.append_assoc]
  rfl

/-- Every exchange of rounds that fit had an outcome that is worth another attempt. -/
theorem Fit.isRetryable_of_mem {config : Config} {id : Nat} {request : Request}
    {attempt earliest : Nat} {rounds : Rounds} (fit : Fit request attempt earliest rounds)
    {number : Nat} {outcome : Outcome}
    (member : .ended id number (some outcome) ∈ told config id request attempt rounds) :
    Outcome.isRetryable outcome = true := by
  induction rounds generalizing attempt earliest with
  | nil => cases member
  | cons round rest ih =>
      simp only [told_cons, List.mem_cons, reduceCtorEq, false_or, Signal.ended.injEq,
        Option.some.injEq] at member
      rcases member with ⟨_, _, rfl⟩ | later
      · exact (Outcome.isRetryable_iff _).2 fit.1.retryable
      · exact ih fit.2 later

/-- Every round sends an attempt, and their numbers follow each other. -/
theorem filter_isSending :
    (told config id request attempt rounds).filter Signal.isSending =
      (List.range' attempt rounds.length).map fun number =>
        .sending id number (.ofUrl request.url) := by
  induction rounds generalizing attempt with
  | nil => rfl
  | cons round rest ih =>
      rw [told_cons, List.length_cons, List.range'_succ, List.map_cons, ← ih]
      rfl

/-- Every round is followed by another attempt. -/
theorem filter_isRetry :
    (told config id request attempt rounds).filter Signal.isRetry =
      rounds.mapIdx fun index round =>
        .retrying id (attempt + index) request.method round.outcome round.delay := by
  induction rounds generalizing attempt with
  | nil => rfl
  | cons round rest ih =>
      have later := ih (attempt + 1)
      simp only [Nat.add_right_comm attempt 1, Nat.add_assoc attempt _ 1] at later
      rw [told_cons, List.mapIdx_cons, ← later]
      rfl

/-- Every round has an exchange. -/
theorem countP_isCall :
    (told config id request attempt rounds).countP Signal.isCall = rounds.length := by
  induction rounds generalizing attempt with
  | nil => rfl
  | cons round rest ih =>
      simp [told_cons, List.countP_cons, Signal.isCall, ih]

theorem filter_isRejection :
    (told config id request attempt rounds).filter Signal.isRejection = [] := by
  induction rounds generalizing attempt with
  | nil => rfl
  | cons round rest ih => exact ih (attempt + 1)

theorem filter_isFinish :
    (told config id request attempt rounds).filter Signal.isFinish = [] := by
  induction rounds generalizing attempt with
  | nil => rfl
  | cons round rest ih => exact ih (attempt + 1)

end Rounds

/-! ## The ending of a tale -/

/-- The check of the status does not make a host open. -/
theorem eq_circuitOpen_of_validate {options : Options} {outcome : Outcome}
    (result : validate options outcome = .error .circuitOpen) : outcome = .error .circuitOpen := by
  cases outcome with
  | error failure => exact result
  | ok response =>
      rw [validate] at result
      split at result <;> cases result

namespace Ending

variable (config : Config) (id : Nat) (request : Request) (started attempt : Nat) (ending : Ending)

/-- The signals of an ending, without their moments. -/
def told : List Signal := (ending.signals config id request started attempt).map (·.2)

/-- How many exchanges begin in an ending. -/
def exchanges : Ending → Nat
  | severed _ _ => 1
  | answered _ _ _ => 1
  | _ => 0

/-- Whether the host was found open. -/
def isRejected : Ending → Bool
  | rejected _ => true
  | _ => false

/-- Whether the last outcome was recorded matters only to those who look for records. -/
theorem filter_answered {kind : Signal → Bool}
    (recorded : ∀ id attempt host, kind (.recorded id attempt host) = false) (passage : Passage)
    (moment : Nat) (outcome : Outcome) :
    ((answered passage moment outcome).told config id request started attempt).filter kind =
      [.sending id attempt (.ofUrl request.url),
        .called id attempt (prepare config request) passage.watched passage.inFlight,
        .ended id attempt (some outcome),
        .finished id request.method ((answered passage moment outcome).result request)
          (Clock.elapsed started moment)].filter kind := by
  cases failure : Outcome.isHostFailure outcome <;>
    simp [told, signals, approach, Passage.signals, failure, recorded, Ending.moment,
      List.filter_cons]

/-- At most one exchange begins in an ending, and only with an attempt. -/
theorem exchanges_le : ending.exchanges ≤ ending.attempts ∧ ending.attempts ≤ 1 := by
  cases ending <;> simp [exchanges, attempts]

variable {request started} {ending} in
/-- How a request ends after its rounds without another exchange. -/
theorem result_of_exchanges_eq_zero {rounds : Rounds}
    (fits : ending.Fits request started rounds) (none : ending.exchanges = 0) :
    ending.result request = .error .circuitOpen ∨ ending.result request = .error .cancelled ∨
      ending.result request = .error .gateClosed := by
  cases ending with
  | rejected checked => exact .inl rfl
  | interrupted moment => exact .inr (.inl rfl)
  | barred checked moment failure =>
      obtain ⟨_, _, rfl | rfl⟩ := fits
      · exact .inr (.inl rfl)
      · exact .inr (.inr rfl)
  | severed passage moment => cases none
  | answered passage moment outcome => cases none

/-- A request whose last exchange gave no result for its host being open ended so by itself. -/
theorem isRejected_of_result {rounds : Rounds} (fits : ending.Fits request started rounds)
    (opened : ending.result request = .error .circuitOpen)
    (byItself : .ended id attempt (some (.error .circuitOpen)) ∉
      ending.told config id request started attempt) : ending.isRejected = true := by
  cases ending with
  | rejected checked => rfl
  | interrupted moment => cases opened
  | severed passage moment => cases opened
  | barred checked moment failure =>
      obtain ⟨_, _, rfl | rfl⟩ := fits <;> cases opened
  | answered passage moment outcome =>
      have given : outcome = .error .circuitOpen := by
        simp only [result] at opened
        split at opened
        · exact opened
        · exact eq_circuitOpen_of_validate opened
      subst given
      exact absurd (by simp [told, signals, approach, Passage.signals]) byItself

theorem filter_isSending :
    (ending.told config id request started attempt).filter Signal.isSending =
      (List.range' attempt ending.attempts).map fun number =>
        .sending id number (.ofUrl request.url) := by
  cases ending with
  | answered passage moment outcome =>
      rw [filter_answered _ _ _ _ _ fun _ _ _ => rfl]
      rfl
  | _ => rfl

theorem filter_isRetry :
    (ending.told config id request started attempt).filter Signal.isRetry = [] := by
  cases ending with
  | answered passage moment outcome =>
      rw [filter_answered _ _ _ _ _ fun _ _ _ => rfl]
      rfl
  | _ => rfl

theorem countP_isCall :
    (ending.told config id request started attempt).countP Signal.isCall = ending.exchanges := by
  rw [List.countP_eq_length_filter]
  cases ending with
  | answered passage moment outcome =>
      rw [filter_answered _ _ _ _ _ fun _ _ _ => rfl]
      rfl
  | _ => rfl

theorem filter_isRejection :
    (ending.told config id request started attempt).filter Signal.isRejection =
      if ending.isRejected then [.rejected id (.ofUrl request.url)] else [] := by
  cases ending with
  | answered passage moment outcome =>
      rw [filter_answered _ _ _ _ _ fun _ _ _ => rfl]
      rfl
  | _ => rfl

theorem filter_isFinish :
    (ending.told config id request started attempt).filter Signal.isFinish =
      [.finished id request.method (ending.result request)
        (Clock.elapsed started ending.moment)] := by
  cases ending with
  | answered passage moment outcome =>
      rw [filter_answered _ _ _ _ _ fun _ _ _ => rfl]
      rfl
  | _ => rfl

end Ending

/-! ## Backoffs -/

/-- Another attempt was to follow, and no exchange began any more. -/
def EndsInBackoff (signals : List Signal) : Prop :=
  ∃ front retry back, signals = front ++ retry :: back ∧ retry.isRetry = true ∧
    ∀ signal ∈ back, signal.isCall = false

theorem not_endsInBackoff_nil : ¬ EndsInBackoff [] := by
  rintro ⟨front, retry, back, split, _⟩
  simp at split

theorem endsInBackoff_cons {first : Signal} {rest : List Signal} :
    EndsInBackoff (first :: rest) ↔
      (first.isRetry = true ∧ ∀ signal ∈ rest, signal.isCall = false) ∨ EndsInBackoff rest := by
  constructor
  · rintro ⟨front, retry, back, split, isRetry, quiet⟩
    rcases List.cons_eq_append_iff.1 split with ⟨rfl, same⟩ | ⟨later, rfl, rfl⟩
    · obtain ⟨rfl, rfl⟩ := List.cons.inj same
      exact .inl ⟨isRetry, quiet⟩
    · exact .inr ⟨later, retry, back, rfl, isRetry, quiet⟩
  · rintro (⟨isRetry, quiet⟩ | ⟨front, retry, back, rfl, isRetry, quiet⟩)
    · exact ⟨[], first, rest, rfl, isRetry, quiet⟩
    · exact ⟨first :: front, retry, back, rfl, isRetry, quiet⟩

instance decidableEndsInBackoff : (signals : List Signal) → Decidable (EndsInBackoff signals)
  | [] => isFalse not_endsInBackoff_nil
  | _ :: rest =>
      haveI := decidableEndsInBackoff rest
      decidable_of_iff' _ endsInBackoff_cons

theorem not_endsInBackoff_of_filter {signals : List Signal}
    (noRetry : signals.filter Signal.isRetry = []) : ¬ EndsInBackoff signals := by
  rintro ⟨front, retry, back, rfl, isRetry, _⟩
  exact List.filter_eq_nil_iff.1 noRetry retry (by simp) isRetry

/-- What follows without another retry decides only whether an exchange began after the last one. -/
theorem endsInBackoff_append {front back : List Signal}
    (noRetry : back.filter Signal.isRetry = []) :
    EndsInBackoff (front ++ back) ↔
      EndsInBackoff front ∧ ∀ signal ∈ back, signal.isCall = false := by
  induction front with
  | nil => simp [not_endsInBackoff_nil, not_endsInBackoff_of_filter noRetry]
  | cons first rest ih =>
      rw [List.cons_append, endsInBackoff_cons, endsInBackoff_cons, ih, List.forall_mem_append]
      tauto

/-- Rounds end in a backoff, unless there are none. -/
theorem endsInBackoff_rounds {opening : List Signal}
    (noRetry : opening.filter Signal.isRetry = []) (config : Config) (id : Nat) (request : Request)
    (rounds : Rounds) :
    EndsInBackoff (opening ++ rounds.told config id request 1) ↔ rounds ≠ [] := by
  constructor
  · rintro ended rfl
    refine not_endsInBackoff_of_filter ?_ ended
    rw [List.filter_append, noRetry]
    rfl
  · intro some
    obtain ⟨init, round, rfl⟩ := (List.eq_nil_or_concat' rounds).resolve_left some
    rw [Rounds.told_concat, ← List.append_assoc]
    exact ⟨_, _, [], rfl, rfl, by simp⟩

/-! ## A tale with its result -/

/-- The signals of a request that has its result, in their parts. -/
structure Digest (config : Config) (flight : Flight) (result : Outcome) (signals : List Signal)
    where
  opening : List Signal
  rounds : Rounds
  ending : Ending
  parts :
    signals = opening ++
      (rounds.told config flight.id flight.request 1 ++
        ending.told config flight.id flight.request flight.started (rounds.length + 1))
  plain : ∀ signal ∈ opening,
    (∃ method url, signal = .submitted flight.id method url) ∨
      ∃ url, signal = .consulted flight.id url
  fit : rounds.Fit flight.request 1 flight.started
  fits : ending.Fits flight.request flight.started rounds
  settled : result = ending.result flight.request

namespace Digest

variable {config : Config} {flight : Flight} {result : Outcome} {signals : List Signal}
  (digest : Digest config flight result signals)

include digest

/-- The opening has only signals of two kinds. -/
theorem filter_opening {kind : Signal → Bool}
    (submitted : ∀ id method url, kind (.submitted id method url) = false)
    (consulted : ∀ id url, kind (.consulted id url) = false) :
    digest.opening.filter kind = [] := by
  refine List.filter_eq_nil_iff.2 fun signal member => Bool.not_eq_true _ ▸ ?_
  rcases digest.plain signal member with ⟨method, url, rfl⟩ | ⟨url, rfl⟩
  · exact submitted _ _ _
  · exact consulted _ _

/-- Signals of a kind that the opening does not have are in the rounds and in the ending. -/
theorem filter_eq {kind : Signal → Bool}
    (submitted : ∀ id method url, kind (.submitted id method url) = false)
    (consulted : ∀ id url, kind (.consulted id url) = false) :
    signals.filter kind =
      (digest.rounds.told config flight.id flight.request 1).filter kind ++
        (digest.ending.told config flight.id flight.request flight.started
          (digest.rounds.length + 1)).filter kind := by
  conv_lhs => rw [digest.parts]
  rw [List.filter_append, digest.filter_opening submitted consulted, List.nil_append,
    List.filter_append]

theorem mem_iff {signal : Signal} :
    signal ∈ signals ↔
      signal ∈ digest.opening ∨ signal ∈ digest.rounds.told config flight.id flight.request 1 ∨
        signal ∈ digest.ending.told config flight.id flight.request flight.started
          (digest.rounds.length + 1) := by
  conv_lhs => rw [digest.parts]
  rw [List.mem_append, List.mem_append]

/-- Attempts are numbered from one on. -/
theorem filter_isSending :
    signals.filter Signal.isSending =
      (List.range' 1 (digest.rounds.length + digest.ending.attempts)).map fun number =>
        .sending flight.id number flight.host := by
  rw [digest.filter_eq (fun _ _ _ => rfl) fun _ _ => rfl, Rounds.filter_isSending,
    Ending.filter_isSending, ← List.map_append, Nat.add_comm digest.rounds.length 1,
    List.range'_append_1]
  rfl

theorem filter_isRetry :
    signals.filter Signal.isRetry =
      digest.rounds.mapIdx fun index round =>
        .retrying flight.id (1 + index) flight.request.method round.outcome round.delay := by
  rw [digest.filter_eq (fun _ _ _ => rfl) fun _ _ => rfl, Rounds.filter_isRetry,
    Ending.filter_isRetry, List.append_nil]

theorem filter_isRejection :
    signals.filter Signal.isRejection =
      if digest.ending.isRejected then [.rejected flight.id flight.host] else [] := by
  rw [digest.filter_eq (fun _ _ _ => rfl) fun _ _ => rfl, Rounds.filter_isRejection,
    Ending.filter_isRejection, List.nil_append]
  rfl

theorem filter_isFinish :
    signals.filter Signal.isFinish =
      [.finished flight.id flight.request.method result
        (Clock.elapsed flight.started digest.ending.moment)] := by
  rw [digest.filter_eq (fun _ _ _ => rfl) fun _ _ => rfl, Rounds.filter_isFinish,
    Ending.filter_isFinish, List.nil_append, ← digest.settled]

theorem countP_isCall :
    signals.countP Signal.isCall = digest.rounds.length + digest.ending.exchanges := by
  rw [List.countP_eq_length_filter, digest.filter_eq (fun _ _ _ => rfl) fun _ _ => rfl,
    List.length_append, ← List.countP_eq_length_filter, ← List.countP_eq_length_filter,
    Rounds.countP_isCall, Ending.countP_isCall]

/-- The request ended in a backoff if it had a round and no exchange after the rounds. -/
theorem endsInBackoff_iff :
    EndsInBackoff signals ↔ digest.rounds ≠ [] ∧ digest.ending.exchanges = 0 := by
  have noRetry : digest.opening.filter Signal.isRetry = [] :=
    digest.filter_opening (fun _ _ _ => rfl) fun _ _ => rfl
  have calls := digest.ending.countP_isCall config flight.id flight.request flight.started
    (digest.rounds.length + 1)
  conv_lhs => rw [digest.parts]
  rw [← List.append_assoc, endsInBackoff_append (Ending.filter_isRetry ..),
    endsInBackoff_rounds noRetry, ← calls, List.countP_eq_zero]
  simp only [Bool.not_eq_true]

/-- The host was open before the last attempt if that is the result and no exchange gave it. -/
theorem isRejected_iff :
    digest.ending.isRejected = true ↔
      result = .error .circuitOpen ∧
        ∀ attempt, .ended flight.id attempt (some (.error .circuitOpen)) ∉ signals := by
  constructor
  · intro rejected
    cases ending : digest.ending with
    | rejected checked =>
        refine ⟨by rw [digest.settled, ending]; rfl, fun attempt member => ?_⟩
        rcases digest.mem_iff.1 member with early | inRounds | last
        · rcases digest.plain _ early with ⟨_, _, same⟩ | ⟨_, same⟩ <;> cases same
        · cases digest.fit.isRetryable_of_mem inRounds
        · simp [ending, Ending.told, Ending.signals, Ending.approach] at last
    | _ => simp [ending, Ending.isRejected] at rejected
  · rintro ⟨opened, byItself⟩
    rw [digest.settled] at opened
    refine Ending.isRejected_of_result config flight.id flight.request flight.started
      (digest.rounds.length + 1) digest.ending digest.fits opened fun member => ?_
    exact byItself (digest.rounds.length + 1) (digest.mem_iff.2 (.inr (.inr member)))

/-! ### What metrics and traces say of it -/

/-- A request with a result is counted once, with its method and its result. -/
theorem value_requests {metric : Metric} (named : metric.name = "haul_requests_total") :
    (Metrics.ofSignals signals).value metric =
      if metric = .requests flight.request.method result then 1 else 0 := by
  rw [Metrics.value_of_requests named, digest.filter_isFinish, List.map_singleton,
    List.sum_singleton, Metric.amount_of_requests named]

/-- As many retries are counted as there are rounds, with the method of the request. -/
theorem value_retries {metric : Metric} (named : metric.name = "haul_retries_total") :
    (Metrics.ofSignals signals).value metric =
      if metric = .retries flight.request.method then (digest.rounds.length : Int) else 0 := by
  rw [Metrics.value_of_retries named, digest.filter_isRetry, List.mapIdx_eq_zipIdx_map,
    List.map_map]
  simp only [Function.comp_def, Metric.amount_of_retries named]
  split <;> simp

theorem value_rejections :
    (Metrics.ofSignals signals).value .rejections =
      if digest.ending.isRejected then 1 else 0 := by
  rw [Metrics.value_of_rejections rfl, digest.filter_isRejection]
  split <;> rfl

/-- The end of a request is shown once, with its result. -/
theorem named_completions :
    Trace.named ["request completed", "request failed"] (Trace.ofSignals signals) =
      [Trace.completion result (Clock.elapsed flight.started digest.ending.moment)] := by
  rw [Trace.named_of_kind (fun _ _ shown => (Trace.contains_name shown).1), digest.filter_isFinish]
  rfl

/-- As many retries are shown as there are rounds. -/
theorem length_named_retries :
    (Trace.named ["retrying request"] (Trace.ofSignals signals)).length = digest.rounds.length := by
  rw [Trace.named_of_kind (fun _ _ shown => (Trace.contains_name shown).2.1),
    digest.filter_isRetry, List.mapIdx_eq_zipIdx_map, List.filterMap_map]
  simp [Function.comp_def, Trace.entry?]

/-- Attempts are shown with their numbers, which go from one on. -/
theorem named_sendings :
    Trace.named ["sending request"] (Trace.ofSignals signals) =
      (List.range' 1 (digest.rounds.length + digest.ending.attempts)).map fun number =>
        { name := "sending request", level := .debug
          fields := [("attempt", .number number), ("host", .text flight.host.text)] } := by
  rw [Trace.named_of_kind (fun _ _ shown => (Trace.contains_name shown).2.2.1),
    digest.filter_isSending, List.filterMap_map]
  simp [Function.comp_def, Trace.entry?]

/-- A rejection is shown if the host was open before the last attempt. -/
theorem named_rejections :
    Trace.named ["circuit breaker open, request rejected"] (Trace.ofSignals signals) =
      if digest.ending.isRejected then
        [{ name := "circuit breaker open, request rejected", level := .warn
           fields := [("host", .text flight.host.text)] }]
      else [] := by
  rw [Trace.named_of_kind (fun _ _ shown => (Trace.contains_name shown).2.2.2),
    digest.filter_isRejection]
  split <;> rfl

end Digest

end ResilientHttp
