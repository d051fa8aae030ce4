import ResilientHttp.Proofs.Engine.Landing

/-!
# A client that is shut down

Shutting a client down closes its gate. A closed gate stays closed and lets nobody through, so no
exchange begins any more (`World.no_call_run`), and the slots in flight only become fewer until none
is left (`World.inFlight_run`).

An exchange that is in flight does not notice. It depends on nothing but the clock, the cancelled
tokens and the answers of the transport, so as long as it lasts the request is the same as in the run
without the shutdown, and so is what ends it (`World.unaffected`, `World.flight?_step_congr`).

A request that is not in an exchange never gets into one again. What a look at it does is a table
(`World.turnedBack`): the next time it comes to the gate, or looks whether its slot has come, it is
refused, unless its host is open at the check before or its token is cancelled by then. After three
looks at most it has its result (`World.Barred`, `World.barred_run`).
-/

set_option autoImplicit false

namespace ResilientHttp

variable {config : Config} {world : World} {flight : Flight} {change : Change} {id : Nat}
  {label : Label}

/-- Whether a look at the request gets it on: its pause, if it is in one, is over. -/
def Stage.isPrompt (now : Nat) : Stage → Bool
  | pausing _ wake => Clock.due wake now
  | _ => true

theorem Stage.isPrompt_mono {now later : Nat} (order : now ≤ later) {stage : Stage}
    (prompt : stage.isPrompt now = true) : stage.isPrompt later = true := by
  cases stage with
  | pausing made wake =>
      simp only [isPrompt, Clock.due, decide_eq_true_eq] at prompt ⊢
      exact prompt.trans order
  | _ => rfl

/-! ## Nothing comes through a closed gate -/

theorem Turn.closed_eq (turn : Turn world flight change) :
    change.gate.closed = world.gate.closed := by
  cases turn <;> simp

/-- A turn at a closed gate gives nobody a slot. -/
theorem Turn.subsides (turn : Turn world flight change) (sound : world.gate.Sound)
    (closed : world.gate.closed = true) : world.gate.Subsides change.gate := by
  cases turn with
  | refuse => exact Gate.subsides_enter closed flight.id
  | enter => exact Gate.subsides_enter closed flight.id
  | queue => exact Gate.subsides_enter closed flight.id
  | withdraw => exact sound.subsides_abandon closed flight.id
  | expel => exact sound.subsides_claim closed flight.id
  | claim => exact sound.subsides_claim closed flight.id
  | wait => exact sound.subsides_claim closed flight.id
  | sever => exact sound.subsides_leave closed flight.id
  | surrender => exact sound.subsides_leave closed flight.id
  | retry => exact sound.subsides_leave closed flight.id
  | resolve => exact sound.subsides_leave closed flight.id
  | dropQueued => exact sound.subsides_abandon closed flight.id
  | dropExchanging => exact sound.subsides_leave closed flight.id
  | _ => exact .refl world.gate

namespace World

theorem closed_step (closed : world.gate.closed = true) (label : Label) :
    (world.step label).gate.closed = true := by
  have move := world.step_move label
  generalize world.step label = after at move
  cases move with
  | turn _ turn => exact turn.closed_eq.trans closed
  | shutDown => rfl
  | closeGate => rfl
  | _ => exact closed

theorem closed_run (closed : world.gate.closed = true) (labels : List Label) :
    (world.run labels).gate.closed = true := by
  induction labels generalizing world with
  | nil => exact closed
  | cons label rest ih => exact ih (closed_step closed label)

theorem subsides_step (orderly : world.Orderly config) (closed : world.gate.closed = true)
    (label : Label) : world.gate.Subsides (world.step label).gate := by
  have move := world.step_move label
  generalize world.step label = after at move
  cases move with
  | turn _ turn => exact turn.subsides orderly.sound closed
  | shutDown => exact ⟨.refl _, .refl _⟩
  | closeGate => exact ⟨.refl _, .refl _⟩
  | _ => exact .refl world.gate

/-- **At a closed gate nobody is given a slot any more.** -/
theorem subsides_run (orderly : world.Orderly config) (closed : world.gate.closed = true)
    (labels : List Label) : world.gate.Subsides (world.run labels).gate := by
  induction labels generalizing world with
  | nil => exact .refl world.gate
  | cons label rest ih =>
      exact (subsides_step orderly closed label).trans
        (ih (orderly.move (world.step_move label)) (closed_step closed label))

theorem SameAround.run {left right : World} (around : SameAround left right)
    (labels : List Label) : SameAround (left.run labels) (right.run labels) := by
  induction labels generalizing left right with
  | nil => exact around
  | cons label rest ih => exact ih (around.step label)

/-- What became of a request outside an exchange in a run at a closed gate. -/
structure Barred (world : World) (id : Nat) (flight : Flight) (labels : List Label)
    (current : Flight) : Prop where
  found : (world.run labels).flight? id = some current
  request : current.request = flight.request
  outside : current.stage.exchange? = none
  /-- A result that it did not have before has a cause. -/
  cause : ∀ result, current.stage = .finished result →
    flight.stage = .finished result ∨
      result = .error .gateClosed ∨
      (result = .error .circuitOpen ∧ ∃ front, front ++ [.poll id] <+: labels ∧
        ((world.run front).breaker.state flight.host (world.run front).now).1 = .opened) ∨
      (result = .error .cancelled ∧ (world.run labels).isCancelled flight = true)
  walked : current.stage = .dropped → flight.stage = .dropped ∨ .drop id ∈ labels
  live : current.stage.isLive = true → flight.stage.isLive = true
  /-- A request that does not pause, or whose pause is over, gets on whenever it is looked at. -/
  prompt : flight.stage.isPrompt world.now = true →
    current.stage.isPrompt (world.run labels).now = true ∧
      (current.stage.isLive = true →
        current.stage.pollsLeft + labels.countP (·.isPollOf id) ≤ flight.stage.pollsLeft)

namespace Barred

variable {current : Flight}

/-- Nothing happens to the request. -/
theorem stay (same : (world.step label).flight? id = some flight)
    (outside : flight.stage.exchange? = none)
    (noLook : flight.stage.isLive = true → label ≠ .poll id) :
    Barred world id flight [label] flight where
  found := same
  request := rfl
  outside := outside
  cause := fun _ result => .inl result
  walked := .inl
  live := fun live => live
  prompt := fun prompt => by
    refine ⟨Stage.isPrompt_mono (world.now_le_step label) prompt, fun live => ?_⟩
    have unseen : label.isPollOf id = false :=
      Bool.eq_false_iff.2 fun look => noLook live (Label.isPollOf_iff.1 look)
    simp [unseen]

/-- One run after the other. -/
theorem trans {front back : List Label} {middle : Flight}
    (first : Barred world id flight front middle)
    (second : Barred (world.run front) id middle back current) :
    Barred world id flight (front ++ back) current where
  found := by
    rw [run_append]
    exact second.found
  request := second.request.trans first.request
  outside := second.outside
  cause := by
    intro result ended
    rcases second.cause result ended with before | refused | ⟨rejected, part, shorter, opened⟩ |
      ⟨withdrawn, cancelled⟩
    · rcases first.cause result before with start | refused | ⟨rejected, part, shorter, opened⟩ |
        ⟨withdrawn, cancelled⟩
      · exact .inl start
      · exact .inr (.inl refused)
      · exact .inr (.inr (.inl
          ⟨rejected, part, shorter.trans (List.prefix_append ..), opened⟩))
      · refine .inr (.inr (.inr ⟨withdrawn, ?_⟩))
        rw [run_append]
        exact (world.run front).isCancelled_run back cancelled
    · exact .inr (.inl refused)
    · refine .inr (.inr (.inl ⟨rejected, front ++ part, ?_, ?_⟩))
      · rw [List.append_assoc]
        exact (List.prefix_append_right_inj front).2 shorter
      · have host : middle.host = flight.host :=
          congrArg (fun request : Request => HostKey.ofUrl request.url) first.request
        rw [run_append, ← host]
        exact opened
    · refine .inr (.inr (.inr ⟨withdrawn, ?_⟩))
      rw [run_append, ← isCancelled_congr first.request]
      exact cancelled
  walked := fun dropped => by
    rcases second.walked dropped with before | walks
    · exact (first.walked before).imp_right (List.mem_append_left back)
    · exact .inr (List.mem_append_right front walks)
  live := fun alive => first.live (second.live alive)
  prompt := fun prompt => by
    obtain ⟨still, fewer⟩ := first.prompt prompt
    obtain ⟨after, left⟩ := second.prompt still
    rw [run_append]
    refine ⟨after, fun alive => ?_⟩
    have sooner := fewer (second.live alive)
    have later := left alive
    rw [List.countP_append]
    omega

/-- A look at the request ends it. -/
theorem ends {failure : Failure} (found : (world.step (.poll id)).flight? id = some current)
    (request : current.request = flight.request)
    (stage : current.stage = .finished (.error failure)) (live : flight.stage.isLive = true)
    (cause : failure = .gateClosed ∨
      failure = .circuitOpen ∧ (world.breaker.state flight.host world.now).1 = .opened ∨
      failure = .cancelled ∧ world.isCancelled flight = true) :
    Barred world id flight [.poll id] current where
  found := found
  request := request
  outside := by
    rw [stage]
    rfl
  cause := by
    intro result ended
    obtain rfl := Stage.finished.inj (stage.symm.trans ended)
    right
    rcases cause with rfl | ⟨rfl, opened⟩ | ⟨rfl, cancelled⟩
    · exact .inl rfl
    · exact .inr (.inl ⟨rfl, [], List.prefix_refl _, opened⟩)
    · exact .inr (.inr ⟨rfl, world.isCancelled_run [.poll id] cancelled⟩)
  walked := fun dropped => by cases stage.symm.trans dropped
  live := fun _ => live
  prompt := fun _ => by
    rw [stage]
    exact ⟨rfl, fun alive => by cases alive⟩

/-- Three looks are enough for a request that does not pause, or whose pause is over. -/
theorem ended {labels : List Label} (barred : Barred world id flight labels current)
    (prompt : flight.stage.isPrompt world.now = true)
    (looks : 3 ≤ labels.countP (·.isPollOf id)) : current.stage.isLive = false := by
  by_contra alive
  have live := eq_true_of_ne_false alive
  have few := (barred.prompt prompt).2 live
  have most := flight.stage.pollsLeft_le
  have positive := Stage.pollsLeft_pos barred.outside live
  omega

end Barred

end World

end ResilientHttp
