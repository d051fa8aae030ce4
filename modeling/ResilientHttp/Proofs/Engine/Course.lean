import ResilientHttp.Proofs.Engine.Slots
import ResilientHttp.Proofs.Engine.Tale

/-!
# The course of one request

A run of a client moves many requests, but every step moves one of them at most. Here a single
request is followed. A step that is addressed to another request, or to none, leaves the request and
its tale as they are (`World.sameFor_step`), and so does every step once the request is over
(`World.sameFor_step_of_ended`). Of the steps that are addressed to a request outside its exchange
only a look at it and a walk away from it do anything (`World.sameFor_step_of_outside`), and what a
look does is a table over the stages (`World.polled`, `World.flight?_poll`).

So the course of a request can be computed label by label, whatever the labels of others in between.
-/

set_option autoImplicit false

namespace ResilientHttp

namespace Label

/-- The request that a label is addressed to. -/
def id? : Label → Option Nat
  | submit id _ _ => some id
  | poll id => some id
  | notify id _ => some id
  | pend id => some id
  | complete id _ => some id
  | drop id => some id
  | _ => none

/-- Whether a request is looked at. -/
def isPollOf (id : Nat) : Label → Bool
  | poll other => other == id
  | _ => false

theorem isPollOf_iff {id : Nat} {label : Label} : label.isPollOf id = true ↔ label = .poll id := by
  cases label <;> simp [isPollOf]

end Label

namespace Stage

/-- How often a request has to be looked at until it has its result, if nothing keeps it waiting and
it gets no slot. -/
def pollsLeft : Stage → Nat
  | submitted => 3
  | pausing _ _ => 3
  | checking _ => 2
  | entering _ => 1
  | queued _ => 1
  | _ => 0

theorem pollsLeft_le (stage : Stage) : stage.pollsLeft ≤ 3 := by
  cases stage <;> simp [pollsLeft]

theorem pollsLeft_pos {stage : Stage} (outside : stage.exchange? = none)
    (live : stage.isLive = true) : 0 < stage.pollsLeft := by
  cases stage <;> simp_all [exchange?, isLive, pollsLeft]

end Stage

namespace Signal

/-- Whether the transport is called. -/
def isCall : Signal → Bool
  | called _ _ _ _ _ => true
  | _ => false

/-- Whether the signal follows only on an exchange that had an outcome. -/
def isAftermath : Signal → Bool
  | ended _ _ (some _) => true
  | recorded _ _ _ => true
  | retrying _ _ _ _ _ => true
  | _ => false

end Signal

namespace World

/-- Two worlds have the same request under a number, with the same tale. -/
def SameFor (id : Nat) (left right : World) : Prop :=
  left.flight? id = right.flight? id ∧ left.tale id = right.tale id

namespace SameFor

theorem refl (id : Nat) (world : World) : SameFor id world world := ⟨rfl, rfl⟩

theorem trans {id : Nat} {first second third : World} (one : SameFor id first second)
    (two : SameFor id second third) : SameFor id first third :=
  ⟨one.1.trans two.1, one.2.trans two.2⟩

end SameFor

variable {world : World} {flight : Flight} {change : Change} {id : Nat}

/-! ## What the steps of requests leave alone

Time, the cancelled tokens and the configuration are no matter of the requests, and the journal only
grows. -/

/-- Two worlds agree on everything that no request can change. -/
structure SameAround (left right : World) : Prop where
  config : left.config = right.config
  now : left.now = right.now
  cancelled : left.cancelled = right.cancelled

theorem SameAround.isCancelled_eq {left right : World} (same : SameAround left right)
    (flight : Flight) : left.isCancelled flight = right.isCancelled flight := by
  unfold isCancelled
  rw [same.cancelled]

/-- A step that is addressed to a request hands it in or applies one function of the engine to it,
whatever the world. -/
theorem step_eq_onFlight {label : Label} {id : Nat} (addressed : label.id? = some id) :
    (∃ request watcher, label = .submit id request watcher) ∨
      ∃ action : World → Flight → World,
        (∀ (world : World) flight, world.Turns flight (action world flight)) ∧
        ∀ world : World, world.step label = world.onFlight id action := by
  cases label with
  | submit taken request watcher =>
      obtain rfl : taken = id := Option.some.inj addressed
      exact .inl ⟨request, watcher, rfl⟩
  | poll taken =>
      obtain rfl : taken = id := Option.some.inj addressed
      exact .inr ⟨poll, turns_poll, fun _ => rfl⟩
  | notify taken notice =>
      obtain rfl : taken = id := Option.some.inj addressed
      exact .inr ⟨_, fun world flight => world.turns_notify flight notice, fun _ => rfl⟩
  | pend taken =>
      obtain rfl : taken = id := Option.some.inj addressed
      exact .inr ⟨pend, turns_pend, fun _ => rfl⟩
  | complete taken answer =>
      obtain rfl : taken = id := Option.some.inj addressed
      exact .inr ⟨_, fun world flight => world.turns_complete flight answer, fun _ => rfl⟩
  | drop taken =>
      obtain rfl : taken = id := Option.some.inj addressed
      exact .inr ⟨drop, turns_drop, fun _ => rfl⟩
  | _ => cases addressed

/-- A step that is addressed to a request changes nothing around the requests. -/
theorem sameAround_step (world : World) {label : Label} (addressed : label.id? = some id) :
    SameAround (world.step label) world := by
  rcases step_eq_onFlight addressed with ⟨request, watcher, rfl⟩ | ⟨action, turns, same⟩
  · simp only [step]
    split <;> exact ⟨rfl, rfl, rfl⟩
  · rw [same, onFlight]
    split
    · rename_i flight _
      rcases turns world flight with idle | ⟨change, _, after⟩
      · rw [idle]
        exact ⟨rfl, rfl, rfl⟩
      · rw [after]
        exact ⟨rfl, rfl, rfl⟩
    · exact ⟨rfl, rfl, rfl⟩

/-- Worlds that agree around the requests do so after the same step. -/
theorem SameAround.step {left right : World} (same : SameAround left right) (label : Label) :
    SameAround (left.step label) (right.step label) := by
  cases addressed : label.id? with
  | some id =>
      have one := left.sameAround_step addressed
      have two := right.sameAround_step addressed
      exact ⟨one.config.trans (same.config.trans two.config.symm),
        one.now.trans (same.now.trans two.now.symm),
        one.cancelled.trans (same.cancelled.trans two.cancelled.symm)⟩
  | none =>
      obtain ⟨config, now, cancelled⟩ := same
      cases label with
      | cancel token =>
          simp only [World.step, cancelled]
          split
          · exact ⟨config, now, cancelled⟩
          · exact ⟨config, now, rfl⟩
      | advance span => exact ⟨config, congrArg (· + span) now, cancelled⟩
      | shutDown => exact ⟨config, now, cancelled⟩
      | closeGate => exact ⟨config, now, cancelled⟩
      | ask url => exact ⟨config, now, cancelled⟩
      | _ => cases addressed

/-- Only cancelling a token makes it one of the cancelled. -/
theorem mem_cancelled_step (world : World) (label : Label) (token : Token) :
    token ∈ (world.step label).cancelled ↔ token ∈ world.cancelled ∨ label = .cancel token := by
  cases addressed : label.id? with
  | some id =>
      have other : label ≠ .cancel token := fun same => by simp [same, Label.id?] at addressed
      rw [(world.sameAround_step addressed).cancelled]
      simp [other]
  | none =>
      cases label with
      | cancel named =>
          simp only [step, Label.cancel.injEq]
          split
          · rename_i already
            refine ⟨.inl, fun either => either.elim id fun same => ?_⟩
            exact List.contains_iff_mem.1 (same ▸ already)
          · rw [List.mem_cons, eq_comm, or_comm]
      | advance => simp [step]
      | shutDown => simp [step, note]
      | closeGate => simp [step]
      | ask url => simp [step, circuit]
      | _ => cases addressed

/-- The cancelled tokens of a run are those that somebody cancelled. -/
theorem mem_cancelled_run (world : World) (labels : List Label) (token : Token) :
    token ∈ (world.run labels).cancelled ↔
      token ∈ world.cancelled ∨ .cancel token ∈ labels := by
  induction labels generalizing world with
  | nil => simp [run_nil]
  | cons label rest ih =>
      rw [run_cons, ih, mem_cancelled_step, List.mem_cons, or_assoc, eq_comm]

/-- A request that is cancelled stays so. -/
theorem isCancelled_run (world : World) {flight : Flight} (labels : List Label)
    (cancelled : world.isCancelled flight = true) :
    (world.run labels).isCancelled flight = true := by
  unfold isCancelled at cancelled ⊢
  cases named : flight.token? with
  | none => simp [named] at cancelled
  | some token =>
      simp only [named, List.contains_iff_mem] at cancelled ⊢
      exact (world.mem_cancelled_run labels token).2 (.inl cancelled)

theorem isCancelled_congr {current : Flight} (request : current.request = flight.request)
    (world : World) : world.isCancelled current = world.isCancelled flight := by
  unfold isCancelled Flight.token?
  rw [request]

/-- Time does not run backwards. -/
theorem now_le_step (world : World) (label : Label) : world.now ≤ (world.step label).now := by
  have move := world.step_move label
  generalize world.step label = after at move
  cases move with
  | advance span => exact Nat.le_add_right world.now span
  | _ => exact Nat.le_refl world.now

/-- The journal only grows. -/
theorem journal_step (world : World) (label : Label) :
    ∃ recent, (world.step label).journal = recent ++ world.journal := by
  have move := world.step_move label
  generalize world.step label = after at move
  cases move with
  | submit => exact ⟨[_], rfl⟩
  | turn => exact ⟨_, rfl⟩
  | shutDown => exact ⟨[_], rfl⟩
  | _ => exact ⟨[], rfl⟩

/-- What holds of the entries that each step of a run adds holds of all that the run adds. -/
theorem journal_run (world : World) (labels : List Label) {Fits : Nat × Signal → Prop}
    (steps : ∀ front label, front ++ [label] <+: labels → ∀ recent,
      ((world.run front).step label).journal = recent ++ (world.run front).journal →
        ∀ entry ∈ recent, Fits entry) :
    ∃ recent, (world.run labels).journal = recent ++ world.journal ∧
      ∀ entry ∈ recent, Fits entry := by
  induction labels using List.reverseRecOn with
  | nil => exact ⟨[], rfl, by simp⟩
  | append_singleton front last ih =>
      obtain ⟨earlier, before, fits⟩ := ih fun part label shorter =>
        steps part label (shorter.trans (List.prefix_append ..))
      obtain ⟨newest, grown⟩ := (world.run front).journal_step last
      refine ⟨newest ++ earlier, ?_, fun entry member => ?_⟩
      · rw [run_append, run_cons, run_nil, grown, before, List.append_assoc]
      · rcases List.mem_append.1 member with new | old
        · exact steps front last (List.prefix_refl _) newest grown entry new
        · exact fits entry old

end World

/-- What is new in the journal after a move is of the present, and it is the signal of a turn, or
says that a request came in or that the client was shut down. -/
theorem Move.turn_of_mem {world after : World} (move : Move world after)
    {recent : List (Nat × Signal)} (grown : after.journal = recent ++ world.journal)
    {moment : Nat} {signal : Signal} (new : (moment, signal) ∈ recent) :
    moment = world.now ∧
      ((∃ id method url, signal = .submitted id method url) ∨ signal = .shutDown ∨
        ∃ flight ∈ world.flights, ∃ change, Turn world flight change ∧
          after = world.apply change ∧
          recent = (change.signals.map fun signal => (world.now, signal)).reverse ∧
          signal ∈ change.signals) := by
  have only : ∀ signals : List (Nat × Signal), after.journal = signals ++ world.journal →
      recent = signals := fun signals other => List.append_cancel_right (grown.symm.trans other)
  cases move with
  | submit id request watcher =>
      rw [only [(world.now, .submitted id request.method request.url)] rfl,
        List.mem_singleton] at new
      obtain ⟨rfl, rfl⟩ := Prod.mk.inj new
      exact ⟨rfl, .inl ⟨_, _, _, rfl⟩⟩
  | @turn flight change member turn =>
      have signals := only _ (world.journal_apply change)
      rw [signals, List.mem_reverse, List.mem_map] at new
      obtain ⟨_, present, same⟩ := new
      obtain ⟨rfl, rfl⟩ := Prod.mk.inj same
      exact ⟨rfl, .inr (.inr ⟨flight, member, change, turn, rfl, signals, present⟩)⟩
  | shutDown =>
      rw [only [(world.now, .shutDown)] rfl, List.mem_singleton] at new
      obtain ⟨rfl, rfl⟩ := Prod.mk.inj new
      exact ⟨rfl, .inr (.inl rfl)⟩
  | _ =>
      rw [only [] rfl] at new
      cases new

namespace World

/-- Every entry of a journal was added by a step of the run. -/
theorem exists_step_of_journal (config : Config) {labels : List Label}
    {recent earlier : List (Nat × Signal)} {entry : Nat × Signal}
    (told : ((new config).run labels).journal = recent ++ entry :: earlier) :
    ∃ front label back newer older, labels = front ++ label :: back ∧
      (((new config).run front).step label).journal =
        (newer ++ entry :: older) ++ ((new config).run front).journal ∧
      earlier = older ++ ((new config).run front).journal := by
  induction labels using List.reverseRecOn generalizing recent with
  | nil =>
      have empty : [] = recent ++ entry :: earlier := told
      simp at empty
  | append_singleton front last ih =>
      have further : ∀ newer, ((new config).run front).journal = newer ++ entry :: earlier →
          ∃ part label back newer older, front ++ [last] = part ++ label :: back ∧
            (((new config).run part).step label).journal =
              (newer ++ entry :: older) ++ ((new config).run part).journal ∧
            earlier = older ++ ((new config).run part).journal := by
        intro newer before
        obtain ⟨part, label, back, newer, older, split, grown, rest⟩ := ih before
        exact ⟨part, label, back ++ [last], newer, older, by simp [split], grown, rest⟩
      obtain ⟨added, grown⟩ := ((new config).run front).journal_step last
      rw [run_append] at told
      rcases List.append_eq_append_iff.1 (grown.symm.trans told) with
        ⟨newer, _, before⟩ | ⟨own, new, rest⟩
      · exact further newer before
      · cases own with
        | nil => exact further [] rest.symm
        | cons head older =>
            obtain ⟨rfl, tail⟩ := List.cons.inj rest
            exact ⟨front, last, [], recent, older, rfl, new ▸ grown, tail⟩

/-- A signal in a journal that is the only one of its turn: the run came to a world with the journal
before the signal, and a step from there added the signal. -/
theorem exists_turn_of_journal (config : Config) {labels : List Label}
    {recent earlier : List (Nat × Signal)} {moment : Nat} {signal : Signal}
    (told : ((new config).run labels).journal = recent ++ (moment, signal) :: earlier)
    (ofTurn : (∀ id method url, signal ≠ .submitted id method url) ∧ signal ≠ .shutDown)
    (alone : ∀ (world : World) flight change, Turn world flight change →
      signal ∈ change.signals → change.signals = [signal]) :
    ∃ front label back, labels = front ++ label :: back ∧
      ((new config).run front).now = moment ∧ ((new config).run front).journal = earlier ∧
      (((new config).run front).step label).journal = (moment, signal) :: earlier ∧
      ∃ flight ∈ ((new config).run front).flights, ∃ change,
        Turn ((new config).run front) flight change ∧ signal ∈ change.signals := by
  obtain ⟨front, label, back, newer, older, split, grown, rest⟩ :=
    exists_step_of_journal config told
  have added : (moment, signal) ∈ newer ++ (moment, signal) :: older :=
    List.mem_append_right _ (List.mem_cons_self ..)
  obtain ⟨rfl, ⟨id, method, url, other⟩ | other | ⟨flight, member, change, turn, _, signals,
    present⟩⟩ := (((new config).run front).step_move label).turn_of_mem grown added
  · exact absurd other (ofTurn.1 id method url)
  · exact absurd other ofTurn.2
  · rw [alone _ flight change turn present] at signals
    have length := congrArg List.length signals
    simp only [List.length_append, List.length_cons, List.length_reverse, List.length_map,
      List.length_nil] at length
    obtain rfl : newer = [] := List.eq_nil_of_length_eq_zero (by omega)
    obtain rfl : older = [] := List.eq_nil_of_length_eq_zero (by omega)
    exact ⟨front, label, back, split, rfl, rest.symm, by rw [grown, rest]; rfl, flight, member,
      change, turn, present⟩

end World

/-! ## Checks and calls -/

section Turns

variable {world : World} {flight : Flight} {change : Change} {named attempt : Nat}

/-- A check that lets an attempt pass found the host closed. -/
theorem Turn.of_sending (turn : Turn world flight change) {host : HostKey}
    (sending : .sending named attempt host ∈ change.signals) :
    named = flight.id ∧ host = flight.host ∧ change.signals = [.sending named attempt host] ∧
      (world.breaker.isOpen flight.host world.now).1 = false := by
  cases turn with
  | pass stage closed =>
      simp only [List.mem_singleton, Signal.sending.injEq] at sending
      obtain ⟨rfl, rfl, rfl⟩ := sending
      exact ⟨rfl, rfl, rfl, closed⟩
  | _ => simp_all [World.moving, Flight.recordings, Flight.verdict]

/-- The transport is called for an attempt that was at the gate, gets its slot and is not cancelled;
it gets the prepared request. -/
theorem Turn.of_called (turn : Turn world flight change) {request : Request} {watched : Bool}
    {inFlight : Nat} (called : .called named attempt request watched inFlight ∈ change.signals) :
    named = flight.id ∧ request = flight.prepared ∧
      change.signals = [.called named attempt request watched inFlight] ∧
      (flight.stage = .entering attempt ∨ flight.stage = .queued attempt) ∧
      world.isCancelled flight = false ∧ world.gate.closed = false := by
  cases turn with
  | enter stage live answer =>
      simp only [List.mem_singleton, Signal.called.injEq] at called
      obtain ⟨rfl, rfl, rfl, rfl, rfl⟩ := called
      refine ⟨rfl, rfl, rfl, .inl stage, live, ?_⟩
      rcases world.gate.enter_cases flight.id with ⟨_, same⟩ | ⟨opened, _⟩ | ⟨opened, _⟩
      · rw [same] at answer
        cases answer
      · exact opened
      · exact opened
  | claim stage live answer =>
      simp only [List.mem_singleton, Signal.called.injEq] at called
      obtain ⟨rfl, rfl, rfl, rfl, rfl⟩ := called
      refine ⟨rfl, rfl, rfl, .inr stage, live, ?_⟩
      rcases world.gate.claim_cases flight.id with
        ⟨_, _, same⟩ | ⟨_, opened, _⟩ | ⟨_, _, same⟩ | ⟨_, opened, _⟩
      · rw [same] at answer
        cases answer
      · exact opened
      · rw [same] at answer
        cases answer
      · exact opened
  | _ => simp_all [World.moving, Flight.recordings, Flight.verdict]

end Turns

namespace World

variable {world : World} {flight : Flight} {change : Change} {id : Nat}

/-- A step calls the transport only for a request that is not cancelled, at a gate that is open. -/
theorem exists_caller {label : Label} {recent : List (Nat × Signal)}
    (grown : (world.step label).journal = recent ++ world.journal) {moment attempt : Nat}
    {request : Request} {watched : Bool} {inFlight : Nat}
    (new : (moment, .called id attempt request watched inFlight) ∈ recent) :
    ∃ flight ∈ world.flights, flight.id = id ∧ world.isCancelled flight = false ∧
      world.gate.closed = false := by
  obtain ⟨_, ⟨_, _, _, other⟩ | other | ⟨flight, member, change, turn, _, _, present⟩⟩ :=
    (world.step_move label).turn_of_mem grown new
  · cases other
  · cases other
  · obtain ⟨named, _, _, _, live, opened⟩ := turn.of_called present
    exact ⟨flight, member, named.symm, live, opened⟩

/-! ## Steps of others -/

/-- A turn leaves all other requests alone. -/
theorem flight?_apply_of_ne (turn : Turn world flight change) (other : id ≠ flight.id) :
    (world.apply change).flight? id = world.flight? id := by
  have differ : change.flight.id ≠ id := fun same => other (same.symm.trans turn.id_eq)
  simp only [flight?, apply, put]
  induction world.flights with
  | nil => rfl
  | cons head tail ih =>
      rw [List.map_cons, List.find?_cons, List.find?_cons, ih]
      by_cases changed : head.id = change.flight.id
      · have before : (head.id == id) = false := beq_eq_false_iff_ne.2 (changed ▸ differ)
        have after : (change.flight.id == id) = false := beq_eq_false_iff_ne.2 differ
        rw [if_pos changed, before, after]
      · rw [if_neg changed]

/-- **A step that is not addressed to a request leaves it and its tale as they are.** -/
theorem sameFor_step (world : World) {label : Label} (other : label.id? ≠ some id) :
    SameFor id (world.step label) world := by
  cases addressed : label.id? with
  | some taken =>
      have differ : id ≠ taken := fun same => other (addressed.trans (congrArg some same.symm))
      rcases step_eq_onFlight addressed with ⟨request, watcher, rfl⟩ | ⟨action, turns, same⟩
      · simp only [step]
        split
        · exact .refl id world
        · refine ⟨?_, tale_note_of_ne world other⟩
          have fresh : (taken == id) = false := beq_eq_false_iff_ne.2 differ.symm
          simp [flight?, List.find?_append, fresh]
      · rw [same, onFlight]
        split
        · rename_i flight found
          rw [← (mem_of_flight? found).2] at differ
          rcases turns world flight with idle | ⟨change, turn, after⟩
          · rw [idle]
            exact .refl id world
          · rw [after]
            exact ⟨flight?_apply_of_ne turn differ, tale_apply_of_ne turn differ⟩
        · exact .refl id world
  | none =>
      cases label with
      | cancel token =>
          simp only [step]
          split <;> exact .refl id _
      | shutDown => exact ⟨rfl, tale_note_of_ne world other⟩
      | closeGate => exact .refl id _
      | ask url => exact .refl id _
      | advance span => exact .refl id _
      | _ => cases addressed

/-- Where the tale of a request stays the same nothing new in the journal is about it. -/
theorem SameFor.not_about {after : World} (same : SameFor id after world)
    {recent : List (Nat × Signal)} (grown : after.journal = recent ++ world.journal) :
    ∀ entry ∈ recent, entry.2.id? ≠ some id := by
  intro entry member about
  have tales := same.2
  rw [tale, grown, List.filter_append, List.reverse_append] at tales
  have nothing := List.append_right_eq_self.1 tales
  rw [List.reverse_eq_nil_iff, List.filter_eq_nil_iff] at nothing
  exact nothing entry member (beq_iff_eq.2 about)

/-- What is new about a request comes from a step that is addressed to it. -/
theorem addressed_of_mem {label : Label} {recent : List (Nat × Signal)}
    (grown : (world.step label).journal = recent ++ world.journal) {entry : Nat × Signal}
    (new : entry ∈ recent) (about : entry.2.id? = some id) : label.id? = some id := by
  by_contra other
  exact (world.sameFor_step other).not_about grown entry new about

/-! ## Steps of the request itself -/

/-- A step that is addressed to a request takes that request through a turn, or does nothing. -/
theorem turns_step (found : world.flight? id = some flight) {label : Label}
    (addressed : label.id? = some id) : world.Turns flight (world.step label) := by
  rcases step_eq_onFlight addressed with ⟨request, watcher, rfl⟩ | ⟨action, turns, same⟩
  · exact .inl (by simp only [step, found, Option.isSome_some, if_true])
  · rw [same, onFlight, found]
    exact turns world flight

/-- Where the request under a number comes from: it was there before the step, it came in with the
step, or the step took it through a turn. -/
theorem flight?_step_cases (nodup : (world.flights.map (·.id)).Nodup) {label : Label}
    {current : Flight} (after : (world.step label).flight? id = some current) :
    world.flight? id = some current ∨
      (∃ request watcher, label = .submit id request watcher ∧ world.flight? id = none ∧
        current = { id, request, watcher }) ∨
      ∃ flight change, label.id? = some id ∧ world.flight? id = some flight ∧
        Turn world flight change ∧ world.step label = world.apply change ∧
        current = change.flight := by
  by_cases addressed : label.id? = some id
  · cases found : world.flight? id with
    | some flight =>
        rcases turns_step found addressed with same | ⟨change, turn, moved⟩
        · rw [same, found] at after
          exact .inl after
        · obtain ⟨member, rfl⟩ := mem_of_flight? found
          rw [moved, flight?_apply nodup member turn, Option.some.injEq] at after
          exact .inr (.inr ⟨flight, change, addressed, rfl, turn, moved, after.symm⟩)
    | none =>
        rcases step_eq_onFlight addressed with ⟨request, watcher, rfl⟩ | ⟨action, _, same⟩
        · refine .inr (.inl ⟨request, watcher, rfl, rfl, ?_⟩)
          have absent : world.flights.find? (·.id == id) = none := found
          simp only [step, found, Option.isSome_none, Bool.false_eq_true, if_false] at after
          simpa [flight?, List.find?_append, absent, eq_comm] using after
        · rw [same, onFlight, found] at after
          cases found.symm.trans after
  · rw [(world.sameFor_step addressed).1] at after
    exact .inl after

/-- Outside an exchange only a look at a request and a walk away from it do anything to it. -/
theorem sameFor_step_of_outside (found : world.flight? id = some flight)
    (outside : flight.stage.exchange? = none) {label : Label} (noPoll : label ≠ .poll id)
    (noDrop : label ≠ .drop id) : SameFor id (world.step label) world := by
  by_cases other : label.id? = some id
  · have stage : ∀ exchange, flight.stage ≠ .exchanging exchange := by
      intro exchange same
      rw [same] at outside
      cases outside
    cases label with
    | submit taken request watcher =>
        obtain rfl : taken = id := Option.some.inj other
        simp only [step, found, Option.isSome_some, if_true]
        exact .refl _ world
    | poll taken => exact absurd (congrArg Label.poll (Option.some.inj other)) noPoll
    | drop taken => exact absurd (congrArg Label.drop (Option.some.inj other)) noDrop
    | notify taken notice =>
        obtain rfl : taken = id := Option.some.inj other
        simp only [step, onFlight, found, notify]
        exact .refl _ world
    | pend taken =>
        obtain rfl : taken = id := Option.some.inj other
        simp only [step, onFlight, found, pend]
        exact .refl _ world
    | complete taken answer =>
        obtain rfl : taken = id := Option.some.inj other
        simp only [step, onFlight, found, complete]
        exact .refl _ world
    | _ => cases other
  · exact world.sameFor_step other

/-- A caller can walk away from every request that is on its way. -/
theorem flight?_drop (nodup : (world.flights.map (·.id)).Nodup)
    (found : world.flight? id = some flight) (live : flight.stage.isLive = true) :
    (world.step (.drop id)).flight? id = some (flight.onward .dropped) := by
  obtain ⟨member, rfl⟩ := mem_of_flight? found
  simp only [step, onFlight, found, drop]
  have elsewhere : flight.stage.isQueued = false → flight.stage.exchange? = none →
      flight.stage.result? = none →
      (world.put { flight with stage := .dropped }).flight? flight.id =
        some (flight.onward .dropped) := fun notQueued notExchanging noResult =>
    flight?_apply nodup member (.dropElsewhere notQueued notExchanging noResult)
  cases stage : flight.stage with
  | queued attempt => exact flight?_apply nodup member (.dropQueued stage)
  | exchanging exchange => exact flight?_apply nodup member (.dropExchanging stage)
  | finished result => simp [stage, Stage.isLive] at live
  | dropped => simp [stage, Stage.isLive] at live
  | _ =>
      exact elsewhere (by rw [stage]; rfl) (by rw [stage]; rfl) (by rw [stage]; rfl)

/-- **No step does anything to a request that is over.** -/
theorem sameFor_step_of_ended (nodup : (world.flights.map (·.id)).Nodup)
    (found : world.flight? id = some flight) (ended : flight.stage.isLive = false)
    (label : Label) : SameFor id (world.step label) world := by
  obtain ⟨member, rfl⟩ := mem_of_flight? found
  have outside : flight.stage.exchange? = none := by
    cases stage : flight.stage <;> simp_all [Stage.isLive, Stage.exchange?]
  by_cases noPoll : label = .poll flight.id
  · subst noPoll
    have still : world.step (.poll flight.id) = world := by
      simp only [step, onFlight, found, poll]
      cases stage : flight.stage <;> simp_all [Stage.isLive]
    rw [still]
    exact .refl _ world
  by_cases noDrop : label = .drop flight.id
  · subst noDrop
    simp only [step, onFlight, found, drop]
    cases stage : flight.stage <;> simp only [stage, Stage.isLive, Bool.true_eq_false] at ended
    · exact .refl _ world
    · have turn : Turn world flight (world.moving [] (flight.onward .dropped)) :=
        .dropElsewhere (by rw [stage]; rfl) (by rw [stage]; rfl) (by rw [stage]; rfl)
      refine ⟨(flight?_apply nodup member turn).trans ?_, ?_⟩
      · rw [found, flight_moving, Flight.onward, ← stage]
      · exact (tale_apply turn).trans (List.append_nil _)
  · exact sameFor_step_of_outside found outside noPoll noDrop

theorem Orderly.run {config : Config} (orderly : world.Orderly config) (labels : List Label) :
    (world.run labels).Orderly config := by
  induction labels generalizing world with
  | nil => exact orderly
  | cons label rest ih => exact ih (orderly.move (world.step_move label))

/-- A request outside an exchange that is not queued has no business at the gate. -/
theorem Orderly.away {config : Config} (orderly : world.Orderly config)
    (found : world.flight? id = some flight) (outside : flight.stage.exchange? = none)
    (unqueued : flight.stage.isQueued = false) :
    ¬ world.gate.Holds id ∧ ¬ world.gate.Waits id := by
  obtain ⟨member, rfl⟩ := mem_of_flight? found
  refine ⟨orderly.not_holds member ?_, orderly.not_waits member unqueued⟩
  rw [Stage.isExchanging, outside]
  rfl

/-- No run does anything to a request that is over. -/
theorem sameFor_run_of_ended {config : Config} (orderly : world.Orderly config)
    (found : world.flight? id = some flight) (ended : flight.stage.isLive = false)
    (labels : List Label) : SameFor id (world.run labels) world := by
  induction labels generalizing world with
  | nil => exact .refl id world
  | cons label rest ih =>
      have same := sameFor_step_of_ended orderly.nodup found ended label
      exact (ih (orderly.move (world.step_move label)) (same.1.trans found)).trans same

/-! ## What a look at a request does -/

end World

/-- The stage of an attempt after the answer of the gate. -/
def Flight.welcomed (flight : Flight) (now attempt : Nat) : Admission → Stage
  | .admitted => .exchanging (flight.newExchange attempt now)
  | .waiting => .queued attempt
  | .refused => .finished (.error .gateClosed)

namespace World

/-- The request after a look at it, stage by stage. -/
def polled (world : World) (flight : Flight) : Flight :=
  match flight.stage with
  | .submitted =>
      { flight with
        prepared := prepare world.config flight.request, started := world.now
        stage := .checking 0 }
  | .checking made =>
      flight.onward
        (if (world.breaker.isOpen flight.host world.now).1 = true
          then .finished (.error .circuitOpen) else .entering (made + 1))
  | .entering attempt =>
      flight.onward
        (if world.isCancelled flight = true then .finished (.error .cancelled)
          else flight.welcomed world.now attempt (world.gate.enter flight.id).1)
  | .queued attempt =>
      flight.onward
        (if world.isCancelled flight = true then .finished (.error .cancelled)
          else flight.welcomed world.now attempt (world.gate.claim flight.id).1)
  | .exchanging exchange =>
      flight.onward
        (if world.isCancelled flight = true then .finished (.error .cancelled)
          else .exchanging { exchange with attended := true })
  | .pausing made wake =>
      flight.onward
        (if world.isCancelled flight = true then .finished (.error .cancelled)
          else if Clock.due wake world.now = true then .checking made else .pausing made wake)
  | .finished _ => flight
  | .dropped => flight

/-- What was handed in stays. -/
theorem request_polled (world : World) (flight : Flight) :
    (world.polled flight).request = flight.request := by
  unfold polled
  split <;> rfl

variable {world : World} {flight : Flight} {id : Nat}

/-- The first look at a request, as a change. -/
theorem start_eq_apply (world : World) (flight : Flight) :
    world.start flight =
      world.apply
        (world.moving ((Preparation.consulted flight.request).map (.consulted flight.id))
          { flight with
            prepared := prepare world.config flight.request, started := world.now
            stage := .checking 0 }) := by
  unfold start Preparation.consulted
  split <;> rfl

/-- **A look at a request has the effect that the table shows.** -/
theorem flight?_poll (nodup : (world.flights.map (·.id)).Nodup)
    (found : world.flight? id = some flight) :
    (world.step (.poll id)).flight? id = some (world.polled flight) := by
  obtain ⟨member, rfl⟩ := mem_of_flight? found
  have after : ∀ {change : Change}, Turn world flight change →
      (world.apply change).flight? flight.id = some change.flight := flight?_apply nodup member
  simp only [step, onFlight, found, poll, polled]
  cases stage : flight.stage with
  | submitted =>
      exact world.start_eq_apply flight ▸ after (.start stage)
  | checking made =>
      cases answer : (world.breaker.isOpen flight.host world.now).1 with
      | true =>
          simp only [check, answer, if_true]
          exact after (.reject stage answer)
      | false =>
          simp only [check, answer, Bool.false_eq_true, if_false]
          exact after (.pass stage answer)
  | entering attempt =>
      cases cancelled : world.isCancelled flight with
      | true =>
          simp only [enter, cancelled, if_true]
          exact after (.retreat stage cancelled)
      | false =>
          simp only [enter, cancelled, Bool.false_eq_true, if_false]
          cases answer : (world.gate.enter flight.id).1 with
          | refused => exact after (.refuse stage cancelled answer)
          | admitted => exact after (.enter stage cancelled answer)
          | waiting => exact after (.queue stage cancelled answer)
  | queued attempt =>
      cases cancelled : world.isCancelled flight with
      | true =>
          simp only [claim, cancelled, if_true]
          exact after (.withdraw stage cancelled)
      | false =>
          simp only [claim, cancelled, Bool.false_eq_true, if_false]
          cases answer : (world.gate.claim flight.id).1 with
          | refused => exact after (.expel stage cancelled answer)
          | admitted => exact after (.claim stage cancelled answer)
          | waiting => exact after (.wait stage cancelled answer)
  | exchanging exchange =>
      cases cancelled : world.isCancelled flight with
      | true =>
          simp only [attend, cancelled, if_true]
          exact after (.sever stage cancelled)
      | false =>
          simp only [attend, cancelled, Bool.false_eq_true, if_false]
          exact after (.tend stage flight.seen exchange.guard true)
  | pausing made wake =>
      cases cancelled : world.isCancelled flight with
      | true =>
          simp only [resume, cancelled, if_true]
          exact after (.quit stage cancelled)
      | false =>
          simp only [resume, cancelled, Bool.false_eq_true, if_false]
          cases due : Clock.due wake world.now with
          | true => exact after (.resume stage cancelled due)
          | false =>
              rw [if_neg Bool.false_ne_true, if_neg Bool.false_ne_true, ← stage]
              exact found
  | finished result => exact found
  | dropped => exact found

end World

end ResilientHttp
