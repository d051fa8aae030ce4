import ResilientHttp.Proofs.Engine.Landing

/-!
# Requests that are cancelled

A request waits in three places: at the gate, for its exchange, and in the pause between two
attempts. Wherever it waits when its token is cancelled, the token is the first thing it sees when it
is looked at again, so it has its result then, whatever else happened in the meantime
(`World.run_of_suspended`). From the cancellation on the journal has no call, no outcome and no
failure of the request (`World.quiet_run_of_cancelled`), and the slot that it held, or that was
granted to it, is passed on (`Gate.PassedOn`).

A request that is cancelled before it is first looked at comes as far as its first check and no
further (`World.run_of_unstarted`). And a request has the result of a cancelled one only if somebody
cancelled its token or the transport answered so (`World.cause_of_cancelled`).
-/

set_option autoImplicit false

namespace ResilientHttp

namespace Stage

/-- Whether the request waits for a slot, for its exchange or for the end of a pause. -/
def isSuspended : Stage → Bool
  | queued _ => true
  | exchanging exchange => !exchange.attended
  | pausing _ _ => true
  | _ => false

/-- Whether the stage is on the way of a request that was cancelled before it was looked at. -/
def isUnstarted : Stage → Bool
  | submitted => true
  | checking made => made == 0
  | entering attempt => attempt == 1
  | finished (.error .cancelled) => true
  | finished (.error .circuitOpen) => true
  | dropped => true
  | _ => false

/-- Whether the exchange, if there is one, is looked at. -/
def isAttended : Stage → Bool
  | exchanging exchange => exchange.attended
  | _ => false

theorem isLive_of_isSuspended {stage : Stage} (suspended : stage.isSuspended = true) :
    stage.isLive = true := by
  cases stage <;> first | rfl | cases suspended

theorem isAttended_of_isSuspended {stage : Stage} (suspended : stage.isSuspended = true) :
    stage.isAttended = false := by
  cases stage <;> simp_all [isSuspended, isAttended]

theorem exchange?_of_isUnstarted {stage : Stage} (unstarted : stage.isUnstarted = true) :
    stage.exchange? = none := by
  cases stage <;> simp_all [isUnstarted, exchange?]

theorem isQueued_of_isUnstarted {stage : Stage} (unstarted : stage.isUnstarted = true) :
    stage.isQueued = false := by
  cases stage <;> simp_all [isUnstarted, isQueued]

theorem isAttended_of_isUnstarted {stage : Stage} (unstarted : stage.isUnstarted = true) :
    stage.isAttended = false := by
  cases stage <;> simp_all [isUnstarted, isAttended]

end Stage

/-- The slot of a taker is passed on: it goes to the first who waits, or else to the free ones. -/
structure Gate.PassedOn (taker : Nat) (before after : Gate) : Prop where
  held : after.held = before.held.erase taker
  next : match before.queue with
    | first :: rest =>
        after.queue = rest ∧ after.granted = before.granted.erase taker ++ [first] ∧
          after.free = before.free
    | [] =>
        after.queue = [] ∧ after.granted = before.granted.erase taker ∧
          after.free = before.free + 1

namespace Gate

variable {gate : Gate} {taker : Nat}

/-- Giving back the slot of a taker who holds it or has a grant for it passes it on. -/
theorem passedOn_giveBack (gate : Gate) (taker : Nat) :
    PassedOn taker gate
      ({ gate with
          granted := gate.granted.erase taker
          held := gate.held.erase taker } : Gate).giveBack := by
  constructor
  · rw [held_giveBack]
  · cases queue : gate.queue with
    | nil => simp [giveBack]
    | cons first rest => simp [giveBack]

theorem passedOn_leave (sound : gate.Sound) (holds : gate.Holds taker) :
    PassedOn taker gate (gate.leave taker) := by
  have ungranted : taker ∉ gate.granted := fun granted =>
    sound.held_not_waiting taker holds (.inr granted)
  rcases gate.leave_cases taker with ⟨_, after⟩ | ⟨absent, _⟩
  · rw [after]
    have passed := passedOn_giveBack gate taker
    rwa [List.erase_of_not_mem ungranted] at passed
  · exact absurd holds absent

theorem passedOn_abandon (sound : gate.Sound) (granted : taker ∈ gate.granted) :
    PassedOn taker gate (gate.abandon taker) := by
  have unheld : taker ∉ gate.held := fun held =>
    sound.held_not_waiting taker held (.inr granted)
  rcases gate.abandon_cases taker with ⟨queued, _⟩ | ⟨_, _, after⟩ | ⟨absent, _⟩
  · exact absurd queued (sound.granted_not_queued taker granted)
  · rw [after]
    have passed := passedOn_giveBack gate taker
    rwa [List.erase_of_not_mem unheld] at passed
  · exact absurd (.inr granted) absent

end Gate

namespace World

variable {config : Config} {world : World} {flight : Flight} {id : Nat} {label : Label}

/-! ## Requests that wait -/

/-- A cancelled request that is looked at where it waits has its result. -/
theorem flight?_poll_of_suspended (orderly : world.Orderly config)
    (found : world.flight? id = some flight) (suspended : flight.stage.isSuspended = true)
    (cancelled : world.isCancelled flight = true) :
    (world.step (.poll id)).flight? id =
      some (flight.onward (.finished (.error .cancelled))) := by
  rw [flight?_poll orderly.nodup found]
  cases stage : flight.stage with
  | queued attempt => simp [polled, stage, cancelled]
  | exchanging exchange => simp [polled, stage, cancelled]
  | pausing made wake => simp [polled, stage, cancelled]
  | _ => simp [stage, Stage.isSuspended] at suspended

/-- A cancelled request that waits goes on waiting until it is looked at or dropped. -/
theorem flight?_step_of_suspended (orderly : world.Orderly config)
    (found : world.flight? id = some flight) (suspended : flight.stage.isSuspended = true)
    (noPoll : label ≠ .poll id) (noDrop : label ≠ .drop id) :
    ∃ current, (world.step label).flight? id = some current ∧
      current.request = flight.request ∧ current.stage.isSuspended = true := by
  by_cases addressed : label.id? = some id
  · cases inside : flight.stage.exchange? with
    | none =>
        have same := sameFor_step_of_outside found inside noPoll noDrop
        exact ⟨flight, same.1.trans found, rfl, suspended⟩
    | some exchange =>
        have stage := Stage.exchange?_eq_some_iff.1 inside
        have unattended : exchange.attended = false := by
          simpa [stage, Stage.isSuspended] using suspended
        have silent := Exchange.answer?_of_unattended unattended flight.request.options world.now
          label
        have table := flight?_step_exchanging orderly.nodup found stage addressed
        refine ⟨_, table, ?_, ?_⟩ <;> simp only [exchanged, silent]
        · split <;> rfl
        · split
          · rename_i taken
            exact absurd (congrArg Label.poll (Option.some.inj addressed)) noPoll
          · simp [Stage.isSuspended, unattended]
          · simp [Stage.isSuspended]
          · rename_i taken
            exact absurd (congrArg Label.drop (Option.some.inj addressed)) noDrop
          · exact suspended
  · exact ⟨flight, (world.sameFor_step addressed).1.trans found, rfl, suspended⟩

/-- **A cancelled request that waits ends as cancelled when it is looked at**, unless it is dropped
before, and nothing but the one or the other ends it. -/
theorem run_of_suspended (orderly : world.Orderly config) (found : world.flight? id = some flight)
    (suspended : flight.stage.isSuspended = true) (cancelled : world.isCancelled flight = true)
    (labels : List Label) :
    ∃ current, (world.run labels).flight? id = some current ∧ current.request = flight.request ∧
      (current.stage.isSuspended = true ∧ .poll id ∉ labels ∧ .drop id ∉ labels ∨
        current.stage = .finished (.error .cancelled) ∧ .poll id ∈ labels ∨
        current.stage = .dropped ∧ .drop id ∈ labels) := by
  induction labels generalizing world flight with
  | nil => exact ⟨flight, found, rfl, .inl ⟨suspended, by simp, by simp⟩⟩
  | cons label rest ih =>
      have next := orderly.move (world.step_move label)
      rw [run_cons]
      by_cases noPoll : label = .poll id
      · subst noPoll
        have ended := flight?_poll_of_suspended orderly found suspended cancelled
        have same := sameFor_run_of_ended next ended rfl rest
        exact ⟨_, same.1.trans ended, rfl, .inr (.inl ⟨rfl, List.mem_cons_self ..⟩)⟩
      by_cases noDrop : label = .drop id
      · subst noDrop
        have ended := flight?_drop orderly.nodup found (Stage.isLive_of_isSuspended suspended)
        have same := sameFor_run_of_ended next ended rfl rest
        exact ⟨_, same.1.trans ended, rfl, .inr (.inr ⟨rfl, List.mem_cons_self ..⟩)⟩
      obtain ⟨waiting, there, request, still⟩ :=
        flight?_step_of_suspended orderly found suspended noPoll noDrop
      have struck : (world.step label).isCancelled waiting = true := by
        rw [isCancelled_congr request]
        exact world.isCancelled_run [label] cancelled
      obtain ⟨current, later, same, way⟩ := ih next there still struck
      refine ⟨current, later, same.trans request, ?_⟩
      simp only [List.mem_cons, Ne.symm noPoll, Ne.symm noDrop, false_or]
      exact way

/-! ## What the journal has of a cancelled request -/

/-- No attempt lands in a step that is addressed to a request whose exchange is not looked at. -/
theorem no_landing_of_unattended (found : world.flight? id = some flight)
    (unattended : flight.stage.isAttended = false) (addressed : label.id? = some id) :
    world.landing? label = none := by
  cases lands : world.landing? label with
  | none => rfl
  | some landing =>
      obtain ⟨other, exchange, answer, same, there, stage, answered, _⟩ :=
        landing?_eq_some_iff.1 lands
      obtain rfl : landing.id = id := Option.some.inj (same.symm.trans addressed)
      obtain rfl : flight = other := Option.some.inj (found.symm.trans there)
      rw [stage] at unattended
      rw [Exchange.answer?_of_unattended unattended] at answered
      cases answered

/-- A step tells of no call, no outcome and no failure of a cancelled request, unless its exchange is
looked at. -/
theorem quiet_step_of_cancelled (orderly : world.Orderly config)
    (found : world.flight? id = some flight) (cancelled : world.isCancelled flight = true)
    (unattended : flight.stage.isAttended = false) {recent : List (Nat × Signal)}
    (grown : (world.step label).journal = recent ++ world.journal) :
    ∀ entry ∈ recent, entry.2.id? = some id →
      entry.2.isCall = false ∧ entry.2.isAftermath = false := by
  rintro ⟨moment, signal⟩ new about
  have addressed := addressed_of_mem grown new about
  have calm := no_landing_of_unattended found unattended addressed
  refine ⟨?_, isAftermath_of_no_landing orderly.nodup calm grown _ new⟩
  cases signal with
  | called named attempt request watched inFlight =>
      obtain ⟨caller, member, rfl, live, _⟩ := exists_caller grown new
      obtain rfl : caller.id = id := Option.some.inj about
      rw [flight?_of_mem orderly.nodup member, Option.some.injEq] at found
      rw [← found, live] at cancelled
      cases cancelled
  | _ => rfl

/-- The same of a run along which the request stays cancelled and its exchange is not looked at. -/
theorem quiet_run_of_cancelled (orderly : world.Orderly config) (labels : List Label)
    (along : ∀ front, front <+: labels → ∃ current, (world.run front).flight? id = some current ∧
      (world.run front).isCancelled current = true ∧ current.stage.isAttended = false) :
    ∃ recent, (world.run labels).journal = recent ++ world.journal ∧
      ∀ entry ∈ recent, entry.2.id? = some id →
        entry.2.isCall = false ∧ entry.2.isAftermath = false := by
  refine world.journal_run labels fun front label shorter recent grown => ?_
  have earlier := (List.prefix_append front [label]).trans shorter
  obtain ⟨current, found, cancelled, unattended⟩ := along front earlier
  exact quiet_step_of_cancelled (orderly.run front) found cancelled unattended grown

/-! ## What becomes of the slot -/

/-- A cancelled request that is looked at where it waits passes its slot on, if it has one, and
leaves the queue otherwise. -/
theorem gate_poll_of_suspended (orderly : world.Orderly config)
    (found : world.flight? id = some flight) (suspended : flight.stage.isSuspended = true)
    (cancelled : world.isCancelled flight = true) :
    if world.hasSlot flight = true then
      Gate.PassedOn id world.gate (world.step (.poll id)).gate
    else
      (world.step (.poll id)).gate = { world.gate with queue := world.gate.queue.erase id } := by
  obtain ⟨member, rfl⟩ := mem_of_flight? found
  have unqueued : flight.id ∉ world.gate.queue →
      { world.gate with queue := world.gate.queue.erase flight.id } = world.gate := fun absent => by
    rw [List.erase_of_not_mem absent]
  cases stage : flight.stage with
  | queued attempt =>
      have after : (world.step (.poll flight.id)).gate = world.gate.abandon flight.id := by
        simp only [step, onFlight, found, poll, stage, claim, cancelled, if_true]
        rfl
      rw [after]
      by_cases granted : flight.id ∈ world.gate.granted
      · rw [if_pos (by simp [hasSlot, stage, granted])]
        exact Gate.passedOn_abandon orderly.sound granted
      · rw [if_neg (by simp [hasSlot, stage, granted])]
        rcases world.gate.abandon_cases flight.id with ⟨_, left⟩ | ⟨_, had, _⟩ | ⟨absent, same⟩
        · exact left
        · exact absurd had granted
        · rw [same, unqueued fun queued => absent (.inl queued)]
  | exchanging exchange =>
      have after : (world.step (.poll flight.id)).gate = world.gate.leave flight.id := by
        simp only [step, onFlight, found, poll, stage, attend, cancelled, if_true]
        rfl
      rw [if_pos (by simp [hasSlot, stage]), after]
      exact Gate.passedOn_leave orderly.sound
        ((orderly.holds_iff flight member).2 (by rw [stage]; rfl))
  | pausing made wake =>
      have after : (world.step (.poll flight.id)).gate = world.gate := by
        simp only [step, onFlight, found, poll, stage, resume, cancelled, if_true]
        rfl
      have absent := orderly.not_waits member (by rw [stage]; rfl)
      rw [if_neg (by simp [hasSlot, stage]), after, unqueued fun queued => absent (.inl queued)]
  | _ => simp [stage, Stage.isSuspended] at suspended

/-! ## Requests that are cancelled before they are looked at -/

/-- What a look at a cancelled request that has not come to the gate leads to. -/
theorem flight?_poll_of_unstarted (orderly : world.Orderly config)
    (found : world.flight? id = some flight) (unstarted : flight.stage.isUnstarted = true)
    (cancelled : world.isCancelled flight = true) :
    (world.step (.poll id)).flight? id = some (world.polled flight) ∧
      (world.polled flight).stage =
        match flight.stage with
        | .submitted => .checking 0
        | .checking _ =>
            if (world.breaker.state flight.host world.now).1 = .opened then
              .finished (.error .circuitOpen)
            else .entering 1
        | .entering _ => .finished (.error .cancelled)
        | stage => stage := by
  refine ⟨flight?_poll orderly.nodup found, ?_⟩
  cases stage : flight.stage with
  | submitted => simp [polled, stage]
  | checking made =>
      obtain rfl : made = 0 := by simpa [stage, Stage.isUnstarted] using unstarted
      simp [polled, stage, Breaker.isOpen_fst]
  | entering attempt => simp [polled, stage, cancelled]
  | finished result => simp [polled, stage]
  | dropped => simp [polled, stage]
  | _ => simp [stage, Stage.isUnstarted] at unstarted

theorem flight?_step_of_unstarted (orderly : world.Orderly config)
    (found : world.flight? id = some flight) (unstarted : flight.stage.isUnstarted = true)
    (cancelled : world.isCancelled flight = true) (label : Label) :
    ∃ current, (world.step label).flight? id = some current ∧
      current.request = flight.request ∧ current.stage.isUnstarted = true ∧
      (current.stage = .dropped → flight.stage = .dropped ∨ label = .drop id) ∧
      (current.stage.isLive = true →
        current.stage.pollsLeft + (if label.isPollOf id then 1 else 0) ≤ flight.stage.pollsLeft) := by
  cases live : flight.stage.isLive with
  | false =>
      have same := sameFor_step_of_ended orderly.nodup found live label
      exact ⟨flight, same.1.trans found, rfl, unstarted, .inl, fun alive => by simp [live] at alive⟩
  | true =>
      by_cases isPoll : label.isPollOf id = true
      · obtain rfl := Label.isPollOf_iff.1 isPoll
        obtain ⟨after, next⟩ := flight?_poll_of_unstarted orderly found unstarted cancelled
        refine ⟨_, after, world.request_polled flight, ?_⟩
        rw [next, if_pos isPoll]
        cases stage : flight.stage with
        | submitted => exact ⟨rfl, nofun, fun _ => Nat.le_refl _⟩
        | checking made =>
            dsimp only
            split
            · exact ⟨rfl, nofun, fun alive => by cases alive⟩
            · exact ⟨rfl, nofun, fun _ => Nat.le_refl _⟩
        | entering attempt => exact ⟨rfl, nofun, fun alive => by cases alive⟩
        | finished result => simp [stage, Stage.isLive] at live
        | dropped => simp [stage, Stage.isLive] at live
        | _ => simp [stage, Stage.isUnstarted] at unstarted
      · rw [if_neg isPoll]
        by_cases isDrop : label = .drop id
        · subst isDrop
          exact ⟨_, flight?_drop orderly.nodup found live, rfl, rfl, fun _ => .inr rfl,
            fun alive => by cases alive⟩
        · have same := sameFor_step_of_outside found (Stage.exchange?_of_isUnstarted unstarted)
            (fun poll => isPoll (Label.isPollOf_iff.2 poll)) isDrop
          exact ⟨flight, same.1.trans found, rfl, unstarted, .inl, fun _ => Nat.le_refl _⟩

/-- **A request that is cancelled before it is looked at never comes to the gate**, and has its
result after three looks. -/
theorem run_of_unstarted (orderly : world.Orderly config) (found : world.flight? id = some flight)
    (unstarted : flight.stage.isUnstarted = true) (cancelled : world.isCancelled flight = true)
    (labels : List Label) :
    ∃ current, (world.run labels).flight? id = some current ∧ current.request = flight.request ∧
      current.stage.isUnstarted = true ∧
      (current.stage = .dropped → flight.stage = .dropped ∨ .drop id ∈ labels) ∧
      (current.stage.isLive = true →
        current.stage.pollsLeft + labels.countP (·.isPollOf id) ≤ flight.stage.pollsLeft) := by
  induction labels generalizing world flight with
  | nil => exact ⟨flight, found, rfl, unstarted, .inl, fun _ => Nat.le_refl _⟩
  | cons label rest ih =>
      obtain ⟨next, there, request, still, walked, fewer⟩ :=
        flight?_step_of_unstarted orderly found unstarted cancelled label
      have struck : (world.step label).isCancelled next = true := by
        rw [isCancelled_congr request]
        exact world.isCancelled_run [label] cancelled
      have onward := orderly.move (world.step_move label)
      obtain ⟨current, later, same, kept, left, bound⟩ := ih onward there still struck
      refine ⟨current, later, same.trans request, kept, fun dropped => ?_, fun alive => ?_⟩
      · rcases left dropped with before | after
        · rcases walked before with sooner | rfl
          · exact .inl sooner
          · exact .inr (List.mem_cons_self ..)
        · exact .inr (List.mem_cons_of_mem label after)
      -- A request that is still on its way was on its way before.
      have lived : next.stage.isLive = true := by
        by_contra dead
        have ended := sameFor_run_of_ended onward there (Bool.eq_false_iff.2 dead) rest
        rw [ended.1, there, Option.some.injEq] at later
        exact dead (later ▸ alive)
      have few := bound alive
      have sooner := fewer lived
      rw [List.countP_cons]
      omega

/-! ## Why a request has the result of a cancelled one -/

/-- A request whose step gives it the result of a cancelled one is cancelled, or the transport
answered so. -/
theorem cause_of_cancelled_step (nodup : (world.flights.map (·.id)).Nodup) {current : Flight}
    (after : (world.step label).flight? id = some current)
    (result : current.stage = .finished (.error .cancelled)) :
    world.flight? id = some current ∨
      (∃ token, current.token? = some token ∧ token ∈ world.cancelled) ∨
      label = .complete id (.error .cancelled) ∧
        ∃ flight exchange, world.flight? id = some flight ∧
          flight.stage = .exchanging exchange ∧ exchange.attended = true := by
  have named : ∀ flight : Flight, flight.request = current.request →
      world.isCancelled flight = true →
      ∃ token, current.token? = some token ∧ token ∈ world.cancelled := by
    intro flight request cancelled
    rw [← isCancelled_congr request.symm] at cancelled
    unfold isCancelled at cancelled
    cases own : current.token? with
    | none => simp [own] at cancelled
    | some token => exact ⟨token, rfl, by simpa [own] using cancelled⟩
  rcases flight?_step_cases nodup after with
    same | ⟨_, _, _, _, rfl⟩ | ⟨flight, change, addressed, found, turn, _, rfl⟩
  · exact .inl same
  · cases result
  · have request := turn.request_eq.symm
    cases inside : flight.stage.exchange? with
    | none =>
        right
        left
        cases turn with
        | retreat _ cancelled => exact named flight request cancelled
        | withdraw _ cancelled => exact named flight request cancelled
        | quit _ cancelled => exact named flight request cancelled
        | sever stage => simp [stage, Stage.exchange?] at inside
        | surrender stage => simp [stage, Stage.exchange?] at inside
        | resolve stage => simp [stage, Stage.exchange?] at inside
        | _ => cases result
    | some exchange =>
        have stage := Stage.exchange?_eq_some_iff.1 inside
        have table := flight?_step_exchanging nodup found stage addressed
        rw [after, Option.some.injEq] at table
        rw [table] at result
        right
        cases answered : exchange.answer? flight.request.options world.now label with
        | none =>
            left
            rcases stage_exchanged_of_silence stage answered with
              ⟨_, inside⟩ | ⟨_, cancelled⟩ | dropped
            · cases inside.symm.trans result
            · exact named flight request cancelled
            · cases dropped.symm.trans result
        | some answer =>
            right
            -- Neither the check of the status nor the guard makes this failure of another outcome.
            have outcome : answer = .error .cancelled := by
              simp only [exchanged, answered, Flight.stage_onward, Flight.landed] at result
              split at result
              · cases result
              · have settled := Stage.finished.inj result
                unfold validate SizeGuard.finish at settled
                grind
            subst outcome
            obtain ⟨attended, ⟨taken, rfl⟩ | ⟨_, limit, _, late⟩⟩ := Exchange.answer?_cases answered
            · obtain rfl : taken = id := Option.some.inj addressed
              exact ⟨rfl, flight, exchange, found, stage, attended⟩
            · cases late

/-- **A request has the result of a cancelled one only if somebody cancelled its token, or the
transport answered so.** -/
theorem cause_of_cancelled (config : Config) (labels : List Label) {current : Flight}
    (found : ((new config).run labels).flight? id = some current)
    (result : current.stage = .finished (.error .cancelled)) :
    (∃ token, current.token? = some token ∧ .cancel token ∈ labels) ∨
      ∃ front back flight exchange, labels = front ++ .complete id (.error .cancelled) :: back ∧
        ((new config).run front).flight? id = some flight ∧
        flight.stage = .exchanging exchange ∧ exchange.attended = true := by
  induction labels using List.reverseRecOn with
  | nil => cases found
  | append_singleton front last ih =>
      rw [run_append, run_cons, run_nil] at found
      rcases cause_of_cancelled_step (orderly_run config front).nodup found result with
        same | ⟨token, own, cancelled⟩ | ⟨rfl, flight, exchange, there, stage, attended⟩
      · rcases ih same with ⟨token, own, earlier⟩ | ⟨part, back, flight, exchange, split, rest⟩
        · exact .inl ⟨token, own, List.mem_append_left _ earlier⟩
        · exact .inr ⟨part, back ++ [last], flight, exchange, by simp [split], rest⟩
      · have earlier := ((new config).mem_cancelled_run front token).1 cancelled
        exact .inl ⟨token, own, List.mem_append_left _ (earlier.resolve_left List.not_mem_nil)⟩
      · exact .inr ⟨front, [], flight, exchange, rfl, there, stage, attended⟩

/-! ## The law of cancellation -/

/-- When its token is cancelled a request is cancelled, and is where it was. -/
theorem isCancelled_after_cancel (world : World) {token : Token} (found : world.flight? id = some flight)
    (own : flight.token? = some token) :
    (world.run [.cancel token]).flight? id = some flight ∧
      (world.run [.cancel token]).isCancelled flight = true := by
  have other : (Label.cancel token).id? ≠ some id := by simp [Label.id?]
  refine ⟨(world.sameFor_step other).1.trans found, ?_⟩
  have struck := (world.mem_cancelled_run [.cancel token] token).2 (.inr (List.mem_singleton_self _))
  simpa [isCancelled, own] using struck

/-- **Cancellation is honoured.** In every run of a client, whatever the order of its steps:

* Let the token of a request be cancelled while the request waits for a slot, for its exchange or in
  a pause. It waits on until it is looked at or dropped, whatever happens meanwhile; when it is looked
  at it has the result of a cancelled request. From the cancellation on the journal has no call, no
  outcome and no failure of it. When it does not wait any more it has no slot: looking at it passed
  its slot on, if it had one, and otherwise took it out of the queue. No slot is ever lost.
* Let the token be cancelled before the request is first looked at. It never comes to the gate, and
  three looks at it lead to its result. A check that finds its host open is the only thing that gives
  it another result than that of a cancelled request.
* A request has the result of a cancelled one only if its token was cancelled or the transport
  answered so. -/
theorem cancellation_honoured (config : Config) (labels : List Label) :
    (∀ id flight token, ((new config).run labels).flight? id = some flight →
      flight.token? = some token →
      let struck := (new config).run (labels ++ [.cancel token])
      (flight.stage.isSuspended = true → ∀ back, let world := struck.run back
        (∃ current, world.flight? id = some current ∧
          (current.stage.isSuspended = true ∧ .poll id ∉ back ∧ .drop id ∉ back ∨
            current.stage = .finished (.error .cancelled) ∧ .poll id ∈ back ∨
            current.stage = .dropped ∧ .drop id ∈ back) ∧
          if current.stage.isSuspended = true then
            if world.hasSlot current = true then
              Gate.PassedOn id world.gate (world.step (.poll id)).gate
            else
              (world.step (.poll id)).gate =
                { world.gate with queue := world.gate.queue.erase id }
          else ¬ world.gate.Holds id ∧ ¬ world.gate.Waits id) ∧
        (∃ recent, world.journal = recent ++ struck.journal ∧
          ∀ entry ∈ recent, entry.2.id? = some id →
            entry.2.isCall = false ∧ entry.2.isAftermath = false) ∧
        world.gate.free + world.gate.granted.length + world.gate.held.length =
          Gate.slotsOf config.maxConcurrent) ∧
      (flight.stage = .submitted → ∀ back, let world := struck.run back
        (∃ current, world.flight? id = some current ∧ current.stage.isUnstarted = true ∧
          (current.stage = .dropped → .drop id ∈ back) ∧
          (3 ≤ back.countP (·.isPollOf id) → current.stage.isLive = false) ∧
          ¬ world.gate.Holds id ∧ ¬ world.gate.Waits id ∧
          (world.step (.poll id)).flight? id = some (world.polled current) ∧
          (world.polled current).stage =
            match current.stage with
            | .submitted => .checking 0
            | .checking _ =>
                if (world.breaker.state current.host world.now).1 = .opened then
                  .finished (.error .circuitOpen)
                else .entering 1
            | .entering _ => .finished (.error .cancelled)
            | stage => stage) ∧
        ∃ recent, world.journal = recent ++ struck.journal ∧
          ∀ entry ∈ recent, entry.2.id? = some id →
            entry.2.isCall = false ∧ entry.2.isAftermath = false)) ∧
    (∀ id flight, ((new config).run labels).flight? id = some flight →
      flight.stage = .finished (.error .cancelled) →
      (∃ token, flight.token? = some token ∧ .cancel token ∈ labels) ∨
        ∃ front back earlier exchange,
          labels = front ++ .complete id (.error .cancelled) :: back ∧
          ((new config).run front).flight? id = some earlier ∧
          earlier.stage = .exchanging exchange ∧ exchange.attended = true) := by
  refine ⟨fun id flight token found own => ?_, fun id flight found result =>
    cause_of_cancelled config labels found result⟩
  rw [run_append]
  obtain ⟨there, cancelled⟩ := ((new config).run labels).isCancelled_after_cancel found own
  have orderly : Orderly config (((new config).run labels).run [.cancel token]) :=
    (orderly_run config labels).run [.cancel token]
  generalize ((new config).run labels).run [.cancel token] = struck at there cancelled orderly
  refine ⟨fun suspended back => ?_, fun unstarted back => ?_⟩
  · obtain ⟨current, later, request, way⟩ := run_of_suspended orderly there suspended cancelled back
    have still : (struck.run back).isCancelled current = true := by
      rw [isCancelled_congr request]
      exact struck.isCancelled_run back cancelled
    refine ⟨⟨current, later, way, ?_⟩, ?_, ?_⟩
    · split
      · exact gate_poll_of_suspended (orderly.run back) later ‹_› still
      · rename_i calm
        rcases way with ⟨waiting, _⟩ | ⟨stage, _⟩ | ⟨stage, _⟩
        · exact absurd waiting calm
        · exact (orderly.run back).away later (by rw [stage]; rfl) (by rw [stage]; rfl)
        · exact (orderly.run back).away later (by rw [stage]; rfl) (by rw [stage]; rfl)
    · refine quiet_run_of_cancelled orderly back fun front _ => ?_
      obtain ⟨waiting, found, request, way⟩ :=
        run_of_suspended orderly there suspended cancelled front
      refine ⟨waiting, found, ?_, ?_⟩
      · rw [isCancelled_congr request]
        exact struck.isCancelled_run front cancelled
      · rcases way with ⟨waits, _⟩ | ⟨stage, _⟩ | ⟨stage, _⟩
        · exact Stage.isAttended_of_isSuspended waits
        · rw [stage]
          rfl
        · rw [stage]
          rfl
    · rw [← (orderly.run back).slots, ← (orderly.run back).sound.conserved, Nat.add_zero]
  · have fresh : flight.stage.isUnstarted = true := by rw [unstarted]; rfl
    obtain ⟨current, later, request, kept, walked, bound⟩ :=
      run_of_unstarted orderly there fresh cancelled back
    have still : (struck.run back).isCancelled current = true := by
      rw [isCancelled_congr request]
      exact struck.isCancelled_run back cancelled
    have away := (orderly.run back).away later (Stage.exchange?_of_isUnstarted kept)
      (Stage.isQueued_of_isUnstarted kept)
    obtain ⟨next, table⟩ := flight?_poll_of_unstarted (orderly.run back) later kept still
    rw [unstarted] at walked bound
    have ended : 3 ≤ back.countP (·.isPollOf id) → current.stage.isLive = false := by
      intro looks
      by_contra alive
      have live := eq_true_of_ne_false alive
      have few : current.stage.pollsLeft + back.countP (·.isPollOf id) ≤ 3 := bound live
      have positive := Stage.pollsLeft_pos (Stage.exchange?_of_isUnstarted kept) live
      omega
    refine ⟨⟨current, later, kept, fun dropped => (walked dropped).resolve_left nofun, ended,
      away.1, away.2, next, table⟩, ?_⟩
    · refine quiet_run_of_cancelled orderly back fun front _ => ?_
      obtain ⟨waiting, found, request, kept, _⟩ :=
        run_of_unstarted orderly there fresh cancelled front
      refine ⟨waiting, found, ?_, Stage.isAttended_of_isUnstarted kept⟩
      rw [isCancelled_congr request]
      exact struck.isCancelled_run front cancelled

/-! ### A grant that nobody has seen

The second of two requests waits for the only slot. The caller of the first walks away, and the slot
is granted to the second, which is cancelled before it is looked at again. -/

/-- The slot is granted to the second request. -/
def grantedRun : List Label :=
  [.submit 0 crowdingRequest none, .submit 1 crowdingRequest none,
    .poll 0, .poll 0, .poll 0, .poll 1, .poll 1, .poll 1, .drop 0]

/-- The second request waits at the gate. -/
theorem suspended_grantedRun :
    ∃ flight, ((new { maxConcurrent := some 1 }).run grantedRun).flight? 1 = some flight ∧
      flight.token? = some "stop" ∧ flight.stage.isSuspended = true :=
  ⟨_, rfl, rfl, rfl⟩

/-- A request that was handed in and cancelled at once. -/
theorem submitted_crowdingRequest :
    ∃ flight, ((new {}).run [.submit 0 crowdingRequest none]).flight? 0 = some flight ∧
      flight.token? = some "stop" ∧ flight.stage = .submitted :=
  ⟨_, rfl, rfl, rfl⟩

/-- The grant is not taken, and the result has a cause. The request that was cancelled at once has
its result after three looks and never comes to the gate. -/
theorem cancellation_honoured_grantedRun :
    (∃ current, (((new { maxConcurrent := some 1 }).run (grantedRun ++ [.cancel "stop"])).run
        [.poll 1]).flight? 1 = some current ∧
      current.stage = .finished (.error .cancelled) ∧
      ∃ token, current.token? = some token ∧
        .cancel token ∈ (grantedRun ++ [.cancel "stop"]) ++ [.poll 1]) ∧
    (∃ current, (((new {}).run ([.submit 0 crowdingRequest none] ++ [.cancel "stop"])).run
        [.poll 0, .poll 0, .poll 0]).flight? 0 = some current ∧
      current.stage.isUnstarted = true ∧ current.stage.isLive = false) := by
  refine ⟨?_, ?_⟩
  · obtain ⟨flight, found, own, suspended⟩ := suspended_grantedRun
    have honoured := (cancellation_honoured { maxConcurrent := some 1 } grantedRun).1 1 flight "stop"
      found own
    obtain ⟨⟨current, later, way, _⟩, _⟩ := honoured.1 suspended [.poll 1]
    obtain ⟨_, unseen, _⟩ | ⟨result, _⟩ | ⟨_, dropped⟩ := way
    · simp at unseen
    · refine ⟨current, later, result, ?_⟩
      rw [← run_append] at later
      have cause := (cancellation_honoured { maxConcurrent := some 1 } _).2 1 current later result
      refine cause.resolve_right ?_
      rintro ⟨front, back, _, _, split, _⟩
      have answered : Label.complete 1 (.error .cancelled) ∈
          (grantedRun ++ [.cancel "stop"]) ++ [.poll 1] := by
        rw [split]
        exact List.mem_append_right _ (List.mem_cons_self ..)
      simp [grantedRun] at answered
    · simp at dropped
  · obtain ⟨flight, found, own, fresh⟩ := submitted_crowdingRequest
    have honoured := (cancellation_honoured {} [.submit 0 crowdingRequest none]).1 0 flight "stop"
      found own
    obtain ⟨⟨current, later, kept, _, ended, _⟩, _⟩ :=
      honoured.2 fresh [.poll 0, .poll 0, .poll 0]
    exact ⟨current, later, kept, ended (Nat.le_refl 3)⟩

end World

end ResilientHttp
