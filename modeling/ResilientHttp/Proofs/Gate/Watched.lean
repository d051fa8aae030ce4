import ResilientHttp.Proofs.Gate.Chronicle

/-!
# A watched gate

A gate together with the log of what happened there. Watching changes nothing: the gate of a watched
run is the gate of the run (`Watched.gate_run`).

What the log says and what the gate has agree after every act (`Watched.Agrees`). While the gate is
open, those who were not granted a slot are its queue, in the same order. Those who were granted a
slot and have not given it back are those with a grant and those who hold a slot, open or closed.
-/

set_option autoImplicit false

namespace ResilientHttp

namespace Gate

/-- A gate and the log of what happened there, oldest first. -/
structure Watched where
  gate : Gate
  log : List Event := []

namespace Watched

/-- A new gate, at which nothing has happened. -/
def new (capacity : Option Nat) : Watched := { gate := Gate.new capacity }

/-- Whether somebody wants a slot and was not answered yet. -/
def asks (watched : Watched) (taker : Nat) : Bool := (unanswered watched.log).contains taker

/-- The grant by which a slot that comes back passes on, if somebody waits for it. -/
def succession (watched : Watched) : List Event := (watched.gate.queue.head?.map .granted).toList

/-- What an act means for those who want a slot. Only who wants one can look for it or walk away, and
only who does not want one, and has none, can come. -/
def events (watched : Watched) : Act → List Event
  | .enter taker =>
      if watched.gate.isPresent taker || watched.asks taker then []
      else
        .began taker ::
          match (watched.gate.enter taker).1 with
          | .admitted => [.granted taker, .admitted taker]
          | .waiting => []
          | .refused => [.refused taker]
  | .claim taker =>
      if watched.asks taker then
        match (watched.gate.claim taker).1 with
        | .admitted => [.admitted taker]
        | .waiting => []
        | .refused => [.refused taker]
      else []
  | .abandon taker =>
      if watched.asks taker then
        .withdrew taker ::
          if watched.gate.granted.contains taker then watched.succession else []
      else []
  | .leave taker =>
      if watched.gate.held.contains taker then .left taker :: watched.succession else []
  | .close => []

/-- A watched gate after an act. -/
def act (watched : Watched) (act : Act) : Watched :=
  { gate := watched.gate.act act, log := watched.log ++ watched.events act }

/-- A watched gate after a run. -/
def run (watched : Watched) (acts : List Act) : Watched := acts.foldl Watched.act watched

/-- What a run means for those who want a slot. -/
def chronicle (watched : Watched) : List Act → List Event
  | [] => []
  | act :: rest => watched.events act ++ (watched.act act).chronicle rest

variable {watched : Watched}

theorem run_append (watched : Watched) (front back : List Act) :
    watched.run (front ++ back) = (watched.run front).run back :=
  List.foldl_append

/-- **Watching a gate changes nothing there.** -/
theorem gate_run (watched : Watched) (acts : List Act) :
    (watched.run acts).gate = watched.gate.run acts := by
  induction acts generalizing watched with
  | nil => rfl
  | cons act rest ih => exact ih (watched.act act)

/-! ## The log and the gate agree -/

/-- What the log says is what the gate has, while so many slots are in the hands of an operation. -/
structure Agrees (inHand : Nat) (watched : Watched) : Prop where
  books : watched.gate.Balanced inHand
  lawful : Lawful watched.log
  /-- At an open gate those who were not granted a slot are the queue. -/
  queue_eq : watched.gate.closed = false → watched.gate.queue = ungranted watched.log
  /-- Whoever waits was not answered yet. -/
  asks_of_waits : ∀ taker, watched.gate.Waits taker → taker ∈ unanswered watched.log
  /-- At an open gate only those who wait were not answered yet. -/
  waits_of_asks : watched.gate.closed = false →
    ∀ taker ∈ unanswered watched.log, watched.gate.Waits taker
  /-- Nobody who holds a slot wants one. -/
  held_silent : ∀ taker ∈ watched.gate.held, taker ∉ unanswered watched.log
  /-- The slots that were not given back are those that were granted and those that are held. -/
  unreleased_iff : ∀ taker,
    taker ∈ unreleased watched.log ↔ taker ∈ watched.gate.granted ∨ taker ∈ watched.gate.held
  unreleased_nodup : (unreleased watched.log).Nodup
  /-- Nobody is refused at an open gate. -/
  unrefused : watched.gate.closed = false → ∀ taker, .refused taker ∉ watched.log

theorem agrees_new (capacity : Option Nat) : (new capacity).Agrees 0 where
  books := sound_new capacity
  lawful := .nil
  queue_eq := fun _ => rfl
  asks_of_waits := by simp [new, Gate.new, Waits]
  waits_of_asks := fun _ _ member => by cases member
  held_silent := fun _ _ => List.not_mem_nil
  unreleased_iff := by simp [new, Gate.new]
  unreleased_nodup := List.nodup_nil
  unrefused := fun _ _ => List.not_mem_nil

namespace Agrees

variable {taker : Nat}

/-- The slot in hand passes on to the first who waits, or is free. -/
theorem giveBack (agrees : watched.Agrees 1) :
    Agrees 0 ⟨watched.gate.giveBack, watched.log ++ watched.succession⟩ := by
  cases queue : watched.gate.queue with
  | nil =>
      have nobody : watched.succession = [] := by simp [succession, queue]
      have after : watched.gate.giveBack = { watched.gate with free := watched.gate.free + 1 } := by
        simp only [Gate.giveBack, queue]
      have books := agrees.books.giveBack
      rw [nobody, List.append_nil]
      rw [after] at books ⊢
      exact { agrees with books }
  | cons first rest =>
      have next : watched.succession = [.granted first] := by simp [succession, queue]
      have after : watched.gate.giveBack =
          { watched.gate with queue := rest, granted := watched.gate.granted ++ [first] } := by
        simp only [Gate.giveBack, queue]
      have opened : watched.gate.closed = false := by
        refine Bool.eq_false_iff.2 fun closed => ?_
        simp [agrees.books.shut closed] at queue
      have order := (agrees.queue_eq opened).symm.trans queue
      have nodup := agrees.books.queue_nodup
      have waits := watched.gate.waits_giveBack
      have books := agrees.books.giveBack
      have slotless : first ∉ unreleased watched.log := by
        rw [agrees.unreleased_iff]
        rintro (granted | held)
        · exact agrees.books.granted_not_queued first granted (by simp [queue])
        · exact agrees.books.held_not_waiting first held (.inl (by simp [queue]))
      rw [queue, List.nodup_cons] at nodup
      rw [next]
      rw [after] at waits books ⊢
      exact
        { books
          lawful := agrees.lawful.concat ⟨by rw [order]; rfl, agrees.unrefused opened⟩
          queue_eq := by
            intro _
            have shorter : ungranted (watched.log ++ [.granted first]) = rest := by
              simpa [roll_concat, Event.begins?, Event.unqueues?, order] using
                fun other member (same : first = other) => nodup.1 (same ▸ member)
            exact shorter.symm
          asks_of_waits := by
            intro taker waiting
            have before := agrees.asks_of_waits taker ((waits taker).1 waiting)
            simpa [mem_roll_concat, Event.begins?, Event.concludes?] using before
          waits_of_asks := by
            intro _ taker asks
            refine (waits taker).2 (agrees.waits_of_asks opened taker ?_)
            simpa [mem_roll_concat, Event.begins?, Event.concludes?] using asks
          held_silent := by
            simpa [mem_roll_concat, Event.begins?, Event.concludes?] using agrees.held_silent
          unreleased_iff := by
            intro taker
            have before := agrees.unreleased_iff taker
            simp only [mem_roll_concat, Event.releases?, Event.grants?, List.mem_append,
              List.mem_singleton, before]
            grind
          unreleased_nodup := by
            have distinct := agrees.unreleased_nodup
            simpa [roll_concat, bne, Event.grants?, Event.releases?, List.nodup_append,
              distinct] using fun other member (same : other = first) => slotless (same ▸ member)
          unrefused := by simpa using agrees.unrefused }

/-- Whoever gives back a slot that they hold leaves it in hand. -/
theorem unhold (agrees : watched.Agrees 0) (held : taker ∈ watched.gate.held) :
    Agrees 1
      ⟨{ watched.gate with held := watched.gate.held.erase taker },
        watched.log ++ [.left taker]⟩ where
  books := agrees.books.unhold held
  lawful :=
    agrees.lawful.concat ⟨(agrees.unreleased_iff taker).2 (.inr held), agrees.held_silent taker held⟩
  queue_eq := by
    simpa [roll_concat, bne, Event.begins?, Event.unqueues?] using agrees.queue_eq
  asks_of_waits := by
    simpa [mem_roll_concat, Waits, Event.begins?, Event.concludes?] using agrees.asks_of_waits
  waits_of_asks := by
    simpa [mem_roll_concat, Waits, Event.begins?, Event.concludes?] using agrees.waits_of_asks
  held_silent := by
    intro other member
    have silent := agrees.held_silent other (List.mem_of_mem_erase member)
    simpa [mem_roll_concat, Event.begins?, Event.concludes?] using silent
  unreleased_iff := by
    intro other
    have ungranted : taker ∉ watched.gate.granted := fun granted =>
      agrees.books.held_not_waiting taker held (.inr granted)
    have before := agrees.unreleased_iff other
    have nodup := agrees.books.held_nodup
    simp only [mem_roll_concat, Event.releases?, Event.grants?, before, nodup.mem_erase_iff]
    grind
  unreleased_nodup := by
    have distinct := agrees.unreleased_nodup.filter (some taker != some ·)
    simpa [roll_concat, Event.grants?, Event.releases?] using distinct
  unrefused := by simpa using agrees.unrefused

/-- Whoever is not interested in a slot any more, because they walk away or because they are told
that the gate is closed, leaves the queue and leaves a grant in hand. -/
theorem forgo (agrees : watched.Agrees 0) (asks : taker ∈ unanswered watched.log) {event : Event}
    (forgoing :
      event = .withdrew taker ∨ event = .refused taker ∧ watched.gate.closed = true)
    {inHand : Nat}
    (books :
      Balanced inHand
        { watched.gate with
          queue := watched.gate.queue.erase taker
          granted := watched.gate.granted.erase taker }) :
    Agrees inHand
      ⟨{ watched.gate with
          queue := watched.gate.queue.erase taker
          granted := watched.gate.granted.erase taker },
        watched.log ++ [event]⟩ := by
  have concludes : event.concludes? = some taker := by
    rcases forgoing with rfl | ⟨rfl, _⟩ <;> rfl
  have unqueues : event.unqueues? = some taker := by
    rcases forgoing with rfl | ⟨rfl, _⟩ <;> rfl
  have releases : event.releases? = some taker := by
    rcases forgoing with rfl | ⟨rfl, _⟩ <;> rfl
  have begins : event.begins? = none := by
    rcases forgoing with rfl | ⟨rfl, _⟩ <;> rfl
  have grants : event.grants? = none := by
    rcases forgoing with rfl | ⟨rfl, _⟩ <;> rfl
  have queueNodup := agrees.books.queue_nodup
  have grantedNodup := agrees.books.granted_nodup
  exact
    { books
      lawful := agrees.lawful.concat (by rcases forgoing with rfl | ⟨rfl, _⟩ <;> exact asks)
      queue_eq := by
        intro opened
        have order := agrees.queue_eq opened
        have shorter : ungranted (watched.log ++ [event]) = watched.gate.queue.erase taker := by
          refine (roll_concat ..).trans ?_
          rw [queueNodup.erase_eq_filter, order, unqueues, begins, Option.toList_none,
            List.append_nil]
          exact List.filter_congr fun other _ => by simp [bne, eq_comm]
        exact shorter.symm
      asks_of_waits := by
        intro other waits
        simp only [Waits, queueNodup.mem_erase_iff, grantedNodup.mem_erase_iff] at waits
        have before := agrees.asks_of_waits other
        simp only [Waits] at before
        simp only [mem_roll_concat, concludes, begins]
        grind
      waits_of_asks := by
        intro opened other member
        have before := agrees.waits_of_asks opened other
        simp only [mem_roll_concat, concludes, begins] at member
        simp only [Waits, queueNodup.mem_erase_iff, grantedNodup.mem_erase_iff] at before ⊢
        grind
      held_silent := by
        intro other held
        have silent := agrees.held_silent other held
        simp [mem_roll_concat, concludes, begins, silent]
      unreleased_iff := by
        intro other
        have notHeld : taker ∉ watched.gate.held := fun held =>
          agrees.held_silent taker held asks
        have before := agrees.unreleased_iff other
        simp only [mem_roll_concat, releases, grants, before, grantedNodup.mem_erase_iff]
        grind
      unreleased_nodup := by
        have distinct := agrees.unreleased_nodup.filter (some taker != some ·)
        simpa [roll_concat, releases, grants] using distinct
      unrefused := by
        intro opened other
        have before := agrees.unrefused opened other
        rcases forgoing with rfl | ⟨rfl, closed⟩
        · simpa using before
        · cases opened.symm.trans closed }

/-- Whoever is not at the gate any more learns so, or walks away, without a change there. -/
theorem depart (agrees : watched.Agrees 0) (asks : taker ∈ unanswered watched.log)
    (absent : ¬ watched.gate.Waits taker) {event : Event}
    (forgoing :
      event = .withdrew taker ∨ event = .refused taker ∧ watched.gate.closed = true) :
    Agrees 0 ⟨watched.gate, watched.log ++ [event]⟩ := by
  have queue := List.erase_of_not_mem fun queued => absent (.inl queued)
  have granted := List.erase_of_not_mem fun granted => absent (.inr granted)
  have same : { watched.gate with
      queue := watched.gate.queue.erase taker
      granted := watched.gate.granted.erase taker } = watched.gate := by rw [queue, granted]
  have gone := agrees.forgo asks forgoing (same.symm ▸ agrees.books)
  rwa [same] at gone

/-! The acts of somebody who comes, looks, or closes the gate. -/

/-- Somebody is told to wait. -/
theorem line (agrees : watched.Agrees 0) (silent : taker ∉ unanswered watched.log)
    (slotless : taker ∉ unreleased watched.log) (opened : watched.gate.closed = false)
    (books : Balanced 0 { watched.gate with queue := watched.gate.queue ++ [taker] }) :
    Agrees 0
      ⟨{ watched.gate with queue := watched.gate.queue ++ [taker] },
        watched.log ++ [.began taker]⟩ where
  books := books
  lawful := agrees.lawful.concat ⟨silent, slotless⟩
  queue_eq := by
    intro _
    have order := agrees.queue_eq opened
    simp [roll_concat, bne, Event.begins?, Event.unqueues?, order]
  asks_of_waits := by
    intro other waits
    have before := agrees.asks_of_waits other
    simp only [Waits, List.mem_append, List.mem_singleton] at waits before
    simp only [mem_roll_concat, Event.begins?, Event.concludes?]
    grind
  waits_of_asks := by
    intro _ other member
    have before := agrees.waits_of_asks opened other
    simp only [mem_roll_concat, Event.begins?, Event.concludes?] at member
    simp only [Waits, List.mem_append, List.mem_singleton] at before ⊢
    grind
  held_silent := by
    intro other held
    have before := agrees.held_silent other held
    have differ : taker ≠ other := fun same =>
      slotless ((agrees.unreleased_iff taker).2 (.inr (same ▸ held)))
    simpa [mem_roll_concat, Event.begins?, Event.concludes?, differ] using before
  unreleased_iff := by
    simpa [mem_roll_concat, Event.grants?, Event.releases?] using agrees.unreleased_iff
  unreleased_nodup := by
    simpa [roll_concat, bne, Event.grants?, Event.releases?] using agrees.unreleased_nodup
  unrefused := by simpa using agrees.unrefused

/-- Somebody comes and is given a free slot. -/
theorem seat (agrees : watched.Agrees 0) (silent : taker ∉ unanswered watched.log)
    (slotless : taker ∉ unreleased watched.log) (opened : watched.gate.closed = false)
    (nobody : watched.gate.queue = [])
    (books : Balanced 0
      { watched.gate with
        free := watched.gate.free - 1
        held := watched.gate.held ++ [taker] }) :
    Agrees 0
      ⟨{ watched.gate with
          free := watched.gate.free - 1
          held := watched.gate.held ++ [taker] },
        watched.log ++ [.began taker] ++ [.granted taker] ++ [.admitted taker]⟩ where
  books := books
  lawful := by
    have order := (agrees.queue_eq opened).symm.trans nobody
    have unrefused := agrees.unrefused opened
    have began : Lawful (watched.log ++ [.began taker]) :=
      agrees.lawful.concat ⟨silent, slotless⟩
    have granted : Lawful (watched.log ++ [.began taker] ++ [.granted taker]) := by
      refine began.concat ⟨?_, by simpa using unrefused⟩
      simp [roll_concat, Event.begins?, Event.unqueues?, order]
    refine granted.concat ⟨?_, ?_⟩
    · simp only [mem_roll_concat, Event.begins?, Event.concludes?]
      simp
    · simp only [mem_roll_concat, Event.grants?, Event.releases?]
      simp
  queue_eq := by
    intro _
    have order := (agrees.queue_eq opened).symm.trans nobody
    simp only [roll_concat, Event.begins?, Event.unqueues?, order]
    simp [nobody]
  asks_of_waits := by
    intro other waits
    have before := agrees.asks_of_waits other waits
    have differ : taker ≠ other := fun same => silent (same ▸ before)
    simp only [mem_roll_concat, Event.begins?, Event.concludes?]
    simp [before, differ]
  waits_of_asks := by
    intro _ other member
    have before := agrees.waits_of_asks opened other
    simp only [mem_roll_concat, Event.begins?, Event.concludes?] at member
    simp only [Waits] at before ⊢
    grind
  held_silent := by
    intro other held
    have before := agrees.held_silent other
    simp only [List.mem_append, List.mem_singleton] at held
    simp only [mem_roll_concat, Event.begins?, Event.concludes?]
    grind
  unreleased_iff := by
    intro other
    have before := agrees.unreleased_iff other
    simp only [mem_roll_concat, Event.grants?, Event.releases?, before, List.mem_append,
      List.mem_singleton]
    grind
  unreleased_nodup := by
    have distinct := agrees.unreleased_nodup
    simp only [roll_concat, Event.grants?, Event.releases?]
    simpa [bne, List.nodup_append, distinct] using
      fun other member (same : other = taker) => slotless (same ▸ member)
  unrefused := by simpa using agrees.unrefused

/-- Somebody looks and finds that a slot is theirs. -/
theorem learn (agrees : watched.Agrees 0) (granted : taker ∈ watched.gate.granted)
    (books : Balanced 0
      { watched.gate with
        granted := watched.gate.granted.erase taker
        held := watched.gate.held ++ [taker] }) :
    Agrees 0
      ⟨{ watched.gate with
          granted := watched.gate.granted.erase taker
          held := watched.gate.held ++ [taker] },
        watched.log ++ [.admitted taker]⟩ where
  books := books
  lawful :=
    agrees.lawful.concat
      ⟨agrees.asks_of_waits taker (.inr granted), (agrees.unreleased_iff taker).2 (.inl granted)⟩
  queue_eq := by
    simpa [roll_concat, bne, Event.begins?, Event.unqueues?] using agrees.queue_eq
  asks_of_waits := by
    intro other waits
    have nodup := agrees.books.granted_nodup
    have unqueued := agrees.books.granted_not_queued taker granted
    have before := agrees.asks_of_waits other
    simp only [Waits, nodup.mem_erase_iff] at waits before
    simp only [mem_roll_concat, Event.begins?, Event.concludes?]
    grind
  waits_of_asks := by
    intro opened other member
    have nodup := agrees.books.granted_nodup
    have before := agrees.waits_of_asks opened other
    simp only [mem_roll_concat, Event.begins?, Event.concludes?] at member
    simp only [Waits, nodup.mem_erase_iff] at before ⊢
    grind
  held_silent := by
    intro other held
    have before := agrees.held_silent other
    simp only [List.mem_append, List.mem_singleton] at held
    simp only [mem_roll_concat, Event.begins?, Event.concludes?]
    grind
  unreleased_iff := by
    intro other
    have nodup := agrees.books.granted_nodup
    have before := agrees.unreleased_iff other
    simp only [mem_roll_concat, Event.grants?, Event.releases?, before, List.mem_append,
      List.mem_singleton, nodup.mem_erase_iff]
    grind
  unreleased_nodup := by
    simpa [roll_concat, bne, Event.grants?, Event.releases?] using agrees.unreleased_nodup
  unrefused := by simpa using agrees.unrefused

/-- Somebody comes to a closed gate. -/
theorem knock (agrees : watched.Agrees 0) (silent : taker ∉ unanswered watched.log)
    (slotless : taker ∉ unreleased watched.log) (closed : watched.gate.closed = true) :
    Agrees 0 ⟨watched.gate, watched.log ++ [.began taker]⟩ where
  books := agrees.books
  lawful := agrees.lawful.concat ⟨silent, slotless⟩
  queue_eq := fun opened => by cases closed.symm.trans opened
  asks_of_waits := by
    intro other waits
    simp [mem_roll_concat, Event.concludes?, agrees.asks_of_waits other waits]
  waits_of_asks := fun opened => by cases closed.symm.trans opened
  held_silent := by
    intro other held
    have before := agrees.held_silent other held
    have differ : taker ≠ other := fun same =>
      slotless ((agrees.unreleased_iff taker).2 (.inr (same ▸ held)))
    simpa [mem_roll_concat, Event.begins?, Event.concludes?, differ] using before
  unreleased_iff := by
    simpa [mem_roll_concat, Event.grants?, Event.releases?] using agrees.unreleased_iff
  unreleased_nodup := by
    simpa [roll_concat, bne, Event.grants?, Event.releases?] using agrees.unreleased_nodup
  unrefused := fun opened => by cases closed.symm.trans opened

/-- Closing the gate answers nobody yet. -/
theorem close (agrees : watched.Agrees 0) : Agrees 0 ⟨watched.gate.close, watched.log⟩ where
  books := agrees.books.close
  lawful := agrees.lawful
  queue_eq := nofun
  asks_of_waits := fun taker waits => agrees.asks_of_waits taker (.of_close waits)
  waits_of_asks := nofun
  held_silent := agrees.held_silent
  unreleased_iff := agrees.unreleased_iff
  unreleased_nodup := agrees.unreleased_nodup
  unrefused := nofun

theorem enter (agrees : watched.Agrees 0) (taker : Nat) :
    (watched.act (.enter taker)).Agrees 0 := by
  cases present : watched.gate.isPresent taker with
  | true =>
      have still : watched.act (.enter taker) = watched := by
        simp [Watched.act, events, Gate.act, present]
      rw [still]
      exact agrees
  | false =>
      have notWaiting : ¬ watched.gate.Waits taker := by
        simp_all [isPresent, Waits]
      have notHolding : ¬ watched.gate.Holds taker := by
        simp_all [isPresent, Holds]
      by_cases asks : taker ∈ unanswered watched.log
      · -- Whoever wants a slot and does not wait for one was sent away and does not know it yet.
        have closed : watched.gate.closed = true := by
          refine Bool.of_not_eq_false fun opened => ?_
          exact notWaiting (agrees.waits_of_asks opened taker asks)
        have still : watched.act (.enter taker) = watched := by
          simp [Watched.act, events, Gate.act, present, Watched.asks, asks, Gate.enter, closed]
        rw [still]
        exact agrees
      · have slotless : taker ∉ unreleased watched.log := by
          rw [agrees.unreleased_iff]
          exact fun has => has.elim (fun granted => notWaiting (.inr granted)) notHolding
        have books := agrees.books.enter notWaiting notHolding
        rcases watched.gate.enter_cases taker with
          ⟨closed, refused⟩ | ⟨opened, free, admitted⟩ | ⟨opened, noneFree, waiting⟩
        · have after : watched.act (.enter taker) =
              ⟨watched.gate, watched.log ++ [.began taker] ++ [.refused taker]⟩ := by
            simp [Watched.act, events, Gate.act, present, Watched.asks, asks, refused]
          have knocked := agrees.knock asks slotless closed
          rw [after]
          exact knocked.depart (mem_roll_concat.2 (.inr rfl)) notWaiting (.inr ⟨rfl, closed⟩)
        · have after : watched.act (.enter taker) =
              ⟨{ watched.gate with
                  free := watched.gate.free - 1
                  held := watched.gate.held ++ [taker] },
                watched.log ++ [.began taker] ++ [.granted taker] ++ [.admitted taker]⟩ := by
            simp [Watched.act, events, Gate.act, present, Watched.asks, asks, admitted]
          have nobody : watched.gate.queue = [] := by
            by_contra waiting
            have := agrees.books.full waiting
            omega
          rw [admitted] at books
          rw [after]
          exact agrees.seat asks slotless opened nobody books
        · have after : watched.act (.enter taker) =
              ⟨{ watched.gate with queue := watched.gate.queue ++ [taker] },
                watched.log ++ [.began taker]⟩ := by
            simp [Watched.act, events, Gate.act, present, Watched.asks, asks, waiting]
          rw [waiting] at books
          rw [after]
          exact agrees.line asks slotless opened books

/-- Who does not want a slot does not wait for one. -/
theorem not_waits (agrees : watched.Agrees 0) (silent : taker ∉ unanswered watched.log) :
    ¬ watched.gate.Waits taker := fun waits => silent (agrees.asks_of_waits taker waits)

theorem claim (agrees : watched.Agrees 0) (taker : Nat) :
    (watched.act (.claim taker)).Agrees 0 := by
  have books := agrees.books.claim taker
  by_cases asks : taker ∈ unanswered watched.log
  · rcases watched.gate.claim_cases taker with
      ⟨granted, closed, refused⟩ | ⟨granted, opened, admitted⟩ | ⟨absent, closed, refused⟩ |
        ⟨_, _, waiting⟩
    · have nobody := agrees.books.shut closed
      have unqueued : watched.gate.queue.erase taker = watched.gate.queue := by simp [nobody]
      have gone := agrees.forgo asks (.inr ⟨rfl, closed⟩)
        (by rw [unqueued]; exact agrees.books.ungrant granted)
      have after := gone.giveBack
      rw [unqueued] at after
      simpa [Watched.act, events, Gate.act, Watched.asks, asks, refused, succession, nobody]
        using after
    · have after : watched.act (.claim taker) =
          ⟨{ watched.gate with
              granted := watched.gate.granted.erase taker
              held := watched.gate.held ++ [taker] },
            watched.log ++ [.admitted taker]⟩ := by
        simp [Watched.act, events, Gate.act, Watched.asks, asks, admitted]
      rw [admitted] at books
      rw [after]
      exact agrees.learn granted books
    · have absent : ¬ watched.gate.Waits taker := by
        rintro (queued | granted)
        · simp [agrees.books.shut closed] at queued
        · exact absent granted
      have gone := agrees.depart asks absent (.inr ⟨rfl, closed⟩)
      simpa [Watched.act, events, Gate.act, Watched.asks, asks, refused] using gone
    · simpa [Watched.act, events, Gate.act, Watched.asks, asks, waiting] using agrees
  · have absent := agrees.not_waits asks
    have still : (watched.gate.claim taker).2 = watched.gate := by
      rcases watched.gate.claim_cases taker with
        ⟨granted, _⟩ | ⟨granted, _⟩ | ⟨_, _, same⟩ | ⟨_, _, same⟩
      · exact absurd (.inr granted) absent
      · exact absurd (.inr granted) absent
      · rw [same]
      · rw [same]
    simpa [Watched.act, events, Gate.act, Watched.asks, asks, still] using agrees

theorem abandon (agrees : watched.Agrees 0) (taker : Nat) :
    (watched.act (.abandon taker)).Agrees 0 := by
  have books := agrees.books.abandon taker
  by_cases asks : taker ∈ unanswered watched.log
  · rcases watched.gate.abandon_cases taker with
      ⟨queued, after⟩ | ⟨unqueued, granted, after⟩ | ⟨absent, after⟩
    · have ungranted : taker ∉ watched.gate.granted := fun granted =>
        agrees.books.granted_not_queued taker granted queued
      have still := List.erase_of_not_mem ungranted
      have gone := agrees.forgo asks (.inl rfl) (by rw [still, ← after]; exact books)
      rw [still] at gone
      simpa [Watched.act, events, Gate.act, Watched.asks, asks, after, ungranted] using gone
    · have still := List.erase_of_not_mem unqueued
      have gone := agrees.forgo asks (.inl rfl)
        (by rw [still]; exact agrees.books.ungrant granted)
      rw [still] at gone
      have passed := gone.giveBack
      simpa [Watched.act, events, Gate.act, Watched.asks, asks, after, granted, succession]
        using passed
    · have ungranted : taker ∉ watched.gate.granted := fun granted => absent (.inr granted)
      have gone := agrees.depart asks absent (.inl rfl)
      simpa [Watched.act, events, Gate.act, Watched.asks, asks, after, ungranted] using gone
  · have absent := agrees.not_waits asks
    have still : watched.gate.abandon taker = watched.gate := by
      rcases watched.gate.abandon_cases taker with ⟨queued, _⟩ | ⟨_, granted, _⟩ | ⟨_, same⟩
      · exact absurd (.inl queued) absent
      · exact absurd (.inr granted) absent
      · exact same
    simpa [Watched.act, events, Gate.act, Watched.asks, asks, still] using agrees

theorem leave (agrees : watched.Agrees 0) (taker : Nat) :
    (watched.act (.leave taker)).Agrees 0 := by
  rcases watched.gate.leave_cases taker with ⟨held, after⟩ | ⟨absent, after⟩
  · have passed := (agrees.unhold held).giveBack
    simpa [Watched.act, events, Gate.act, after, held, succession] using passed
  · simpa [Watched.act, events, Gate.act, after, absent] using agrees

/-- **Every act keeps log and gate in agreement.** -/
theorem act (agrees : watched.Agrees 0) (act : Act) : (watched.act act).Agrees 0 := by
  cases act with
  | enter taker => exact agrees.enter taker
  | claim taker => exact agrees.claim taker
  | abandon taker => exact agrees.abandon taker
  | leave taker => exact agrees.leave taker
  | close => simpa [Watched.act, events, Gate.act] using agrees.close

theorem run (agrees : watched.Agrees 0) (acts : List Act) : (watched.run acts).Agrees 0 := by
  induction acts generalizing watched with
  | nil => exact agrees
  | cons act rest ih => exact ih (agrees.act act)

end Agrees

end Watched

end Gate

end ResilientHttp
