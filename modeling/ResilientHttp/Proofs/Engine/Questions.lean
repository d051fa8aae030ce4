import ResilientHttp.Proofs.Engine.Ledger

/-!
# Questions of observers

To answer an observer the breaker forgets what is aged, so a question changes the world
(`Label.ask`). No request can tell. Two worlds are alike when they agree on everything but the memory
of their breakers (`World.Alike`), and every function of the engine, applied to the same request in
both, leads to worlds that are alike. Only the check of a host looks at that memory, and it has the
same answer in both: each breaker remembers the failures that its journal tells of
(`World.Faithful`), and the journals are the same.

So runs that differ in nothing but questions come to the same requests at the same stages, with the
same journal and the same slots in use, and their breakers give the same answers from then on
(`World.alike_run`).
-/

set_option autoImplicit false

namespace ResilientHttp

/-- Whether a step is a question of an observer. -/
def Label.isQuestion : Label → Bool
  | ask _ => true
  | _ => false

namespace World

/-- The worlds agree on everything but the memory of their breakers. -/
def Alike (left right : World) : Prop :=
  ∃ breaker, right = { left with breaker }

namespace Alike

variable {left right : World}

theorem refl (world : World) : Alike world world := ⟨world.breaker, rfl⟩

theorem symm (alike : Alike left right) : Alike right left := by
  obtain ⟨breaker, rfl⟩ := alike
  exact ⟨left.breaker, rfl⟩

theorem trans {last : World} (alike : Alike left right) (further : Alike right last) :
    Alike left last := by
  obtain ⟨breaker, rfl⟩ := alike
  obtain ⟨another, rfl⟩ := further
  exact ⟨another, rfl⟩

theorem now_eq (alike : Alike left right) : right.now = left.now := by
  obtain ⟨breaker, rfl⟩ := alike
  rfl

theorem gate_eq (alike : Alike left right) : right.gate = left.gate := by
  obtain ⟨breaker, rfl⟩ := alike
  rfl

theorem flight?_eq (alike : Alike left right) (id : Nat) : right.flight? id = left.flight? id := by
  obtain ⟨breaker, rfl⟩ := alike
  rfl

theorem isCancelled_eq (alike : Alike left right) (flight : Flight) :
    right.isCancelled flight = left.isCancelled flight := by
  obtain ⟨breaker, rfl⟩ := alike
  rfl

theorem failureLog_eq (alike : Alike left right) : right.failureLog = left.failureLog := by
  obtain ⟨breaker, rfl⟩ := alike
  rfl

/-- Breakers are not compared. -/
theorem asking (alike : Alike left right) (breaker otherBreaker : Breaker) :
    Alike { left with breaker } { right with breaker := otherBreaker } := by
  obtain ⟨_, rfl⟩ := alike
  exact ⟨otherBreaker, rfl⟩

theorem entering (alike : Alike left right) (gate : Gate) :
    Alike { left with gate } { right with gate } := by
  obtain ⟨breaker, rfl⟩ := alike
  exact ⟨breaker, rfl⟩

theorem note (alike : Alike left right) (signal : Signal) :
    Alike (left.note signal) (right.note signal) := by
  obtain ⟨breaker, rfl⟩ := alike
  exact ⟨breaker, rfl⟩

theorem put (alike : Alike left right) (flight : Flight) :
    Alike (left.put flight) (right.put flight) := by
  obtain ⟨breaker, rfl⟩ := alike
  exact ⟨breaker, rfl⟩

/-! ### The functions of the engine -/

theorem finish (alike : Alike left right) (flight : Flight) (result : Outcome) :
    Alike (left.finish flight result) (right.finish flight result) := by
  unfold World.finish
  rw [alike.now_eq]
  exact (alike.note _).put _

theorem endAttempt (alike : Alike left right) (flight : Flight) (attempt : Nat)
    (outcome : Option Outcome) :
    Alike (left.endAttempt flight attempt outcome) (right.endAttempt flight attempt outcome) := by
  unfold World.endAttempt
  rw [alike.gate_eq]
  exact (alike.note _).entering _

theorem account (alike : Alike left right) (flight : Flight) (attempt : Nat) (outcome : Outcome) :
    Alike (left.account flight attempt outcome) (right.account flight attempt outcome) := by
  unfold World.account
  split
  · exact (alike.note _).asking ..
  · exact alike

theorem settle (alike : Alike left right) (flight : Flight) (attempt : Nat) (outcome : Outcome) :
    Alike (left.settle flight attempt outcome) (right.settle flight attempt outcome) := by
  have accounted := alike.account flight attempt outcome
  unfold World.settle
  rw [alike.now_eq]
  split
  · exact alike.finish flight outcome
  · dsimp only
    split
    · exact (accounted.note _).put _
    · exact accounted.finish flight _

theorem conclude (alike : Alike left right) (flight : Flight) (exchange : Exchange)
    (answer : Outcome) :
    Alike (left.conclude flight exchange answer) (right.conclude flight exchange answer) :=
  (alike.endAttempt flight _ _).settle flight _ _

theorem start (alike : Alike left right) (flight : Flight) :
    Alike (left.start flight) (right.start flight) := by
  obtain ⟨breaker, rfl⟩ := alike
  unfold World.start Preparation.consulted
  split <;> exact ⟨breaker, rfl⟩

/-- The check of a host ends the same way in both worlds, if their breakers answer alike. -/
theorem check (alike : Alike left right) (flight : Flight) (made : Nat)
    (answers : (right.breaker.isOpen flight.host right.now).1 =
      (left.breaker.isOpen flight.host left.now).1) :
    Alike (left.check flight made) (right.check flight made) := by
  have asked := alike.asking (left.breaker.isOpen flight.host left.now).2
    (right.breaker.isOpen flight.host right.now).2
  unfold World.check
  simp only [answers]
  split
  · exact (asked.note _).finish flight _
  · exact (asked.note _).put _

theorem welcome (alike : Alike left right) (flight : Flight) (attempt : Nat)
    (answer : Admission) :
    Alike (left.welcome flight attempt answer) (right.welcome flight attempt answer) := by
  cases answer with
  | admitted =>
      unfold World.welcome World.begin
      rw [alike.now_eq, alike.gate_eq]
      exact (alike.note _).put _
  | waiting => exact alike.put _
  | refused => exact alike.settle flight attempt _

theorem enter (alike : Alike left right) (flight : Flight) (attempt : Nat) :
    Alike (left.enter flight attempt) (right.enter flight attempt) := by
  unfold World.enter
  rw [alike.isCancelled_eq, alike.gate_eq]
  split
  · exact alike.settle flight attempt _
  · exact (alike.entering _).welcome flight attempt _

theorem claim (alike : Alike left right) (flight : Flight) (attempt : Nat) :
    Alike (left.claim flight attempt) (right.claim flight attempt) := by
  unfold World.claim
  rw [alike.isCancelled_eq, alike.gate_eq]
  split
  · exact (alike.entering _).settle flight attempt _
  · exact (alike.entering _).welcome flight attempt _

theorem attend (alike : Alike left right) (flight : Flight) (exchange : Exchange) :
    Alike (left.attend flight exchange) (right.attend flight exchange) := by
  unfold World.attend
  rw [alike.isCancelled_eq]
  split
  · exact (alike.endAttempt flight _ _).settle flight _ _
  · exact alike.put _

theorem resume (alike : Alike left right) (flight : Flight) (made wake : Nat) :
    Alike (left.resume flight made wake) (right.resume flight made wake) := by
  unfold World.resume
  rw [alike.isCancelled_eq, alike.now_eq]
  split
  · exact alike.finish flight _
  · split
    · exact alike.put _
    · exact alike

/-- A request goes on in both worlds alike, if their breakers answer alike. -/
theorem poll (alike : Alike left right) (flight : Flight)
    (answers : (right.breaker.isOpen flight.host right.now).1 =
      (left.breaker.isOpen flight.host left.now).1) :
    Alike (left.poll flight) (right.poll flight) := by
  unfold World.poll
  cases flight.stage with
  | submitted => exact alike.start flight
  | checking made => exact alike.check flight made answers
  | entering attempt => exact alike.enter flight attempt
  | queued attempt => exact alike.claim flight attempt
  | exchanging exchange => exact alike.attend flight exchange
  | pausing made wake => exact alike.resume flight made wake
  | finished result => exact alike
  | dropped => exact alike

theorem notify (alike : Alike left right) (flight : Flight) (notice : Notice) :
    Alike (left.notify flight notice) (right.notify flight notice) := by
  unfold World.notify
  split
  · exact alike.put _
  · exact alike

theorem pend (alike : Alike left right) (flight : Flight) :
    Alike (left.pend flight) (right.pend flight) := by
  unfold World.pend
  rw [alike.now_eq]
  split
  · split
    · split
      · split
        · exact alike.conclude flight _ _
        · exact alike.put _
      · exact alike.put _
    · exact alike
  · exact alike

theorem complete (alike : Alike left right) (flight : Flight) (outcome : Outcome) :
    Alike (left.complete flight outcome) (right.complete flight outcome) := by
  unfold World.complete
  split
  · split
    · exact alike.conclude flight _ outcome
    · exact alike
  · exact alike

theorem drop (alike : Alike left right) (flight : Flight) :
    Alike (left.drop flight) (right.drop flight) := by
  unfold World.drop
  rw [alike.gate_eq]
  cases flight.stage with
  | queued attempt => exact (alike.entering _).put _
  | exchanging exchange => exact (alike.endAttempt flight _ _).put _
  | finished result => exact alike
  | _ => exact alike.put _

theorem onFlight (alike : Alike left right) (id : Nat) (action : World → Flight → World)
    (keeps : ∀ flight, Alike (action left flight) (action right flight)) :
    Alike (left.onFlight id action) (right.onFlight id action) := by
  unfold World.onFlight
  rw [alike.flight?_eq]
  split
  · exact keeps _
  · exact alike

/-- **The same step keeps worlds alike**, if their breakers answer alike. -/
theorem step (alike : Alike left right) (label : Label)
    (answers : ∀ host, (right.breaker.isOpen host right.now).1 =
      (left.breaker.isOpen host left.now).1) :
    Alike (left.step label) (right.step label) := by
  cases label with
  | submit id request watcher =>
      simp only [World.step, alike.flight?_eq]
      split
      · exact alike
      · obtain ⟨breaker, rfl⟩ := alike
        exact ⟨breaker, rfl⟩
  | poll id => exact alike.onFlight id World.poll fun flight => alike.poll flight (answers _)
  | notify id notice =>
      exact alike.onFlight id (World.notify · · notice) fun flight => alike.notify flight notice
  | pend id => exact alike.onFlight id World.pend alike.pend
  | complete id outcome =>
      exact alike.onFlight id (World.complete · · outcome) fun flight =>
        alike.complete flight outcome
  | drop id => exact alike.onFlight id World.drop alike.drop
  | cancel token =>
      obtain ⟨breaker, rfl⟩ := alike
      simp only [World.step]
      split <;> exact ⟨breaker, rfl⟩
  | shutDown =>
      simp only [World.step, alike.gate_eq]
      exact (alike.note .shutDown).entering _
  | closeGate =>
      simp only [World.step, alike.gate_eq]
      exact alike.entering _
  | ask url => exact alike.asking ..
  | advance span =>
      obtain ⟨breaker, rfl⟩ := alike
      exact ⟨breaker, rfl⟩

end Alike

/-! ### Runs -/

/-- A question alone leads to a world that is alike. -/
theorem alike_step_of_isQuestion (world : World) {label : Label}
    (question : label.isQuestion = true) : Alike world (world.step label) := by
  cases label with
  | ask url => exact ⟨_, rfl⟩
  | _ => cases question

/-- A run without its questions comes to a world that is alike. -/
theorem alike_run_filter (config : Config) (labels : List Label) :
    Alike ((new config).run labels) ((new config).run (labels.filter (!·.isQuestion))) := by
  induction labels using List.reverseRecOn with
  | nil => exact .refl _
  | append_singleton front label ih =>
      rw [List.filter_append, run_append]
      cases question : label.isQuestion with
      | true =>
          rw [List.filter_cons_of_neg (by simp [question]), List.filter_nil, List.append_nil]
          exact (alike_step_of_isQuestion _ question).symm.trans ih
      | false =>
          rw [List.filter_cons_of_pos (by simp [question]), List.filter_nil, run_append]
          have answers := fun host =>
            ((faithful_run config front).answers_eq (faithful_run config _) ih.now_eq
              (congrFun ih.failureLog_eq host) 0).2
          exact ih.step label fun host => congrArg (· == Circuit.opened) (answers host)

/-- **What observers ask is no matter to the requests.** Two runs of a client that differ in nothing
but questions come to worlds that agree on everything but the memory of their breakers: the same
requests at the same stages and with the same results, the same journal, the same slots in use. And
from then on, as long as nothing happens, both breakers give the same answers for every host. -/
theorem alike_run (config : Config) {labels others : List Label}
    (same : labels.filter (!·.isQuestion) = others.filter (!·.isQuestion)) :
    let left := (new config).run labels
    let right := (new config).run others
    Alike left right ∧
    ∀ host span,
      (right.breaker.failureCount host (right.now + span)).1 =
        (left.breaker.failureCount host (left.now + span)).1 ∧
      (right.breaker.state host (right.now + span)).1 =
        (left.breaker.state host (left.now + span)).1 := by
  intro left right
  have alike : Alike left right :=
    (alike_run_filter config labels).trans (same ▸ (alike_run_filter config others).symm)
  refine ⟨alike, fun host span => ?_⟩
  exact (faithful_run config labels).answers_eq (faithful_run config others) alike.now_eq
    (congrFun alike.failureLog_eq host) span

/-- A question is no idle step: here the breaker forgets a failure that has reached its age. -/
example :
    let url : Url := { scheme := "http", host := some "a", hasAuthority := true }
    let breaker := Breaker.new (some ⟨1, Span.ofNanos 5, Nat.one_pos⟩)
    let world : World := { new {} with breaker := breaker.recordFailure (.ofUrl url) 0, now := 5 }
    world.breaker.failures.length = 1 ∧ (world.step (.ask url)).breaker.failures = [] := by
  decide +kernel

end World

end ResilientHttp
