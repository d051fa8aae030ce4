import ResilientHttp.Engine.World

/-!
# The tale of a finished request

The signals about a request that has its result fall into three parts. The opening says that the
request came in and that its source of credentials was asked, if it has one. Then come the rounds:
attempts that were each followed by another. The ending says how the last attempt or the wait for
it came to the result.

This module says what these parts are, without reference to the engine: which signals they consist
of (`Round.signals`, `Ending.signals`), and when the attempts of a tale are as the retry strategy
wants them (`Round.Fits`, `Ending.Fits`). The attempts are numbered from one, and no tale that fits
has more of them than the strategy allows (`Ending.attempts_le`).
-/

set_option autoImplicit false

namespace ResilientHttp

/-- The most attempts that a request may make. -/
def Request.mostAttempts (request : Request) : Nat :=
  request.options.retry.elim 1 fun strategy => max 1 strategy.maxAttempts

/-- The most attempts that a request may make are those of its backoff. -/
theorem Request.maxAttempts_ofStrategy (request : Request) :
    (Backoff.ofStrategy request.options.retry).maxAttempts = request.mostAttempts := by
  unfold mostAttempts
  cases request.options.retry with
  | none => rfl
  | some strategy => exact Nat.max_comm _ _

/-- The outcomes after which another attempt is worth it, spelled out. -/
theorem Outcome.isRetryable_iff (outcome : Outcome) :
    Outcome.isRetryable outcome = true ↔
      (∃ response, outcome = .ok response ∧ 500 ≤ response.status) ∨
      (∃ fault, outcome = .error (.transport fault)) ∨
      (∃ bytes, outcome = .error (.tooLarge bytes)) := by
  rcases outcome with failure | response
  · cases failure <;> simp [isRetryable, Failure.isRetryable]
  · simp [isRetryable, Response.isServerError]

/-- An outcome that ends the request whatever else holds is not worth another attempt. -/
theorem Outcome.isRetryable_of_isFinal {outcome : Outcome}
    (final : Outcome.isFinal outcome = true) : Outcome.isRetryable outcome = false := by
  rcases outcome with failure | response
  · cases failure <;> first | rfl | cases final
  · cases final

/-! ## The way of an attempt to the transport -/

/-- How an attempt came to the transport. -/
structure Passage where
  /-- When the host was found closed. -/
  checked : Nat
  /-- When the transport was called. -/
  called : Nat
  watched : Bool
  inFlight : Nat

namespace Passage

/-- The signals of an attempt that came to the transport. -/
def signals (config : Config) (id : Nat) (request : Request) (attempt : Nat) (passage : Passage) :
    List (Nat × Signal) :=
  [(passage.checked, .sending id attempt (.ofUrl request.url)),
    (passage.called,
      .called id attempt (prepare config request) passage.watched passage.inFlight)]

/-- The check is not earlier than it may be, and comes before the call. -/
structure Fits (earliest : Nat) (passage : Passage) : Prop where
  earliest_le : earliest ≤ passage.checked
  checked_le : passage.checked ≤ passage.called

end Passage

/-! ## Rounds -/

/-- An attempt that is followed by another. -/
structure Round where
  passage : Passage
  /-- When the exchange was over. -/
  ended : Nat
  outcome : Outcome
  delay : Span

namespace Round

/-- The signals of an attempt that is followed by another. -/
def signals (config : Config) (id : Nat) (request : Request) (attempt : Nat) (round : Round) :
    List (Nat × Signal) :=
  round.passage.signals config id request attempt ++
    [(round.ended, .ended id attempt (some round.outcome)),
      (round.ended, .recorded id attempt (.ofUrl request.url)),
      (round.ended, .retrying id attempt request.method round.outcome round.delay)]

/-- The end of the delay, as a timer shows it. -/
def ready (round : Round) : Nat := Clock.tick (Clock.deadline round.ended round.delay)

/-- The attempt began no earlier than it may, its outcome is worth another one, and the strategy
says how long to wait for that. -/
structure Fits (request : Request) (attempt earliest : Nat) (round : Round) : Prop where
  passage : round.passage.Fits earliest
  called_le : round.passage.called ≤ round.ended
  retryable :
    (∃ response, round.outcome = .ok response ∧ 500 ≤ response.status) ∨
    (∃ fault, round.outcome = .error (.transport fault)) ∨
    (∃ bytes, round.outcome = .error (.tooLarge bytes))
  delay : (Backoff.ofStrategy request.options.retry).nextDelay attempt = some round.delay

/-- A round that fits is not the last one that the strategy allows. -/
theorem Fits.attempt_lt {request : Request} {attempt earliest : Nat} {round : Round}
    (fits : round.Fits request attempt earliest) : attempt < request.mostAttempts := by
  rw [← request.maxAttempts_ofStrategy]
  refine Nat.lt_of_not_le fun done => ?_
  have none := (Backoff.nextDelay_eq_none_iff _ _).2 (.inr done)
  rw [fits.delay] at none
  cases none

end Round

/-- The rounds of a request, in their order. -/
abbrev Rounds := List Round

namespace Rounds

/-- The signals of rounds, the first of which is the given attempt. -/
def signals (config : Config) (id : Nat) (request : Request) : Nat → Rounds → List (Nat × Signal)
  | _, [] => []
  | attempt, round :: rounds =>
      round.signals config id request attempt ++ signals config id request (attempt + 1) rounds

/-- The first moment at which the attempt after the rounds may begin. -/
def ready : Nat → Rounds → Nat
  | earliest, [] => earliest
  | _, round :: rounds => ready round.ready rounds

/-- Every round fits, and none begins before the delay of the one before it is over. -/
def Fit (request : Request) : Nat → Nat → Rounds → Prop
  | _, _, [] => True
  | attempt, earliest, round :: rounds =>
      round.Fits request attempt earliest ∧ Fit request (attempt + 1) round.ready rounds

theorem signals_concat (config : Config) (id : Nat) (request : Request) (attempt : Nat)
    (rounds : Rounds) (round : Round) :
    signals config id request attempt (rounds ++ [round]) =
      signals config id request attempt rounds ++
        round.signals config id request (attempt + rounds.length) := by
  induction rounds generalizing attempt with
  | nil => simp [signals]
  | cons first rest ih =>
      rw [List.cons_append, signals, ih, signals, List.append_assoc, List.length_cons,
        Nat.add_right_comm, Nat.add_assoc]

theorem ready_concat (earliest : Nat) (rounds : Rounds) (round : Round) :
    ready earliest (rounds ++ [round]) = round.ready := by
  induction rounds generalizing earliest with
  | nil => rfl
  | cons first rest ih => exact ih first.ready

theorem Fit.concat {request : Request} {attempt earliest : Nat} {rounds : Rounds} {round : Round}
    (fit : Fit request attempt earliest rounds)
    (last : round.Fits request (attempt + rounds.length) (ready earliest rounds)) :
    Fit request attempt earliest (rounds ++ [round]) := by
  induction rounds generalizing attempt earliest with
  | nil => exact ⟨last, trivial⟩
  | cons first rest ih =>
      refine ⟨fit.1, ih fit.2 ?_⟩
      rw [List.length_cons, Nat.add_comm rest.length 1, ← Nat.add_assoc] at last
      exact last

/-- After rounds that fit there is another attempt. -/
theorem Fit.length_lt {request : Request} {attempt earliest : Nat} {rounds : Rounds}
    (fit : Fit request attempt earliest rounds) (first : attempt ≤ request.mostAttempts) :
    attempt + rounds.length ≤ request.mostAttempts := by
  induction rounds generalizing attempt earliest with
  | nil => exact first
  | cons round rest ih =>
      have further := ih fit.2 fit.1.attempt_lt
      rw [List.length_cons]
      omega

end Rounds

/-! ## Endings -/

/-- How a request came to its result after its rounds. -/
inductive Ending where
  /-- The host was open before the next attempt, which was not made. -/
  | rejected (checked : Nat)
  /-- The request was cancelled during a delay. -/
  | interrupted (moment : Nat)
  /-- The attempt got no slot. -/
  | barred (checked moment : Nat) (failure : Failure)
  /-- The request was cancelled during the exchange. -/
  | severed (passage : Passage) (moment : Nat)
  /-- The exchange had an outcome that no other attempt follows. -/
  | answered (passage : Passage) (moment : Nat) (outcome : Outcome)

namespace Ending

/-- How many attempts were made in the ending. -/
def attempts : Ending → Nat
  | rejected _ => 0
  | interrupted _ => 0
  | barred _ _ _ => 1
  | severed _ _ => 1
  | answered _ _ _ => 1

/-- When the request got its result. -/
def moment : Ending → Nat
  | rejected checked => checked
  | interrupted moment => moment
  | barred _ moment _ => moment
  | severed _ moment => moment
  | answered _ moment _ => moment

/-- What the request got as its result. -/
def result (request : Request) : Ending → Outcome
  | rejected _ => .error .circuitOpen
  | interrupted _ => .error .cancelled
  | barred _ _ failure => .error failure
  | severed _ _ => .error .cancelled
  | answered _ _ outcome =>
      if Outcome.isFinal outcome then outcome else validate request.options outcome

/-- The signals of the ending before the one with the result. -/
def approach (config : Config) (id : Nat) (request : Request) (attempt : Nat) :
    Ending → List (Nat × Signal)
  | rejected checked => [(checked, .rejected id (.ofUrl request.url))]
  | interrupted _ => []
  | barred checked _ _ => [(checked, .sending id attempt (.ofUrl request.url))]
  | severed passage moment =>
      passage.signals config id request attempt ++ [(moment, .ended id attempt none)]
  | answered passage moment outcome =>
      passage.signals config id request attempt ++ (moment, .ended id attempt (some outcome)) ::
        if Outcome.isHostFailure outcome then
          [(moment, .recorded id attempt (.ofUrl request.url))]
        else []

/-- The signals of the ending. -/
def signals (config : Config) (id : Nat) (request : Request) (started attempt : Nat)
    (ending : Ending) : List (Nat × Signal) :=
  ending.approach config id request attempt ++
    [(ending.moment, .finished id request.method (ending.result request)
      (Clock.elapsed started ending.moment))]

/-- The last attempt began no earlier than it may, and there is a reason why no other follows. -/
def Fits (request : Request) (started : Nat) (rounds : Rounds) : Ending → Prop
  | rejected checked => rounds.ready started ≤ checked
  | interrupted moment => ∃ round, rounds.getLast? = some round ∧ round.ended ≤ moment
  | barred checked moment failure =>
      rounds.ready started ≤ checked ∧ checked ≤ moment ∧
        (failure = .cancelled ∨ failure = .gateClosed)
  | severed passage moment =>
      passage.Fits (rounds.ready started) ∧ passage.called ≤ moment
  | answered passage moment outcome =>
      passage.Fits (rounds.ready started) ∧ passage.called ≤ moment ∧
        (Outcome.isRetryable outcome = true → request.mostAttempts ≤ rounds.length + 1)

/-- A request makes no more attempts than it may. -/
theorem attempts_le {request : Request} {started : Nat} {rounds : Rounds}
    (fit : rounds.Fit request 1 started) (ending : Ending) :
    rounds.length + ending.attempts ≤ request.mostAttempts := by
  have one : 1 ≤ request.mostAttempts := by
    unfold Request.mostAttempts
    cases request.options.retry with
    | none => exact Nat.le_refl 1
    | some strategy => exact Nat.le_max_left 1 _
  have rest := Rounds.Fit.length_lt fit one
  cases ending <;> simp only [attempts] <;> omega

end Ending

end ResilientHttp
