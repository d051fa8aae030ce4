import ResilientHttp.Proofs.Engine.Turn
import ResilientHttp.Proofs.Gate.Custody
import ResilientHttp.Proofs.Telemetry.Readings
import Mathlib.Data.List.Nodup
import Mathlib.Data.List.Perm.Lattice

/-!
# Slots and the requests that have them

The gate keeps its own books of who waits and who holds a slot; the requests have their stages; the
gauge counts signals. The three agree after every step. A request holds a slot exactly during its
exchange, and it is at the gate only while it is queued (`World.Orderly`). This is the invariant: a
turn changes the standing of one request, and the change of its standing at the gate is the change
that its stage calls for (`Turn.fits`).

The account of all slots follows (`World.slots_accounted`). The slots in flight are those of the
requests that were granted a slot and have not given it back, the gauge counts those that began
their exchange, and when no request is live all slots are free again, whichever way the requests
went.
-/

set_option autoImplicit false

namespace ResilientHttp

/-- Whether the stage is the one in which a slot is held. -/
def Stage.isExchanging (stage : Stage) : Bool := stage.exchange?.isSome

namespace World

/-- The value of the gauge of attempts that hold a slot. -/
def gauge (world : World) : Int := (Metrics.ofSignals world.history).value Metric.inFlight

/-- Whether the attempt of a request was granted a slot and has not ended. -/
def hasSlot (world : World) (flight : Flight) : Bool :=
  match flight.stage with
  | .exchanging _ => true
  | .queued _ => world.gate.granted.contains flight.id
  | _ => false

/-- The gate's books and the stages of the requests agree. -/
structure Orderly (config : Config) (world : World) : Prop where
  /-- No two requests have the same number. -/
  nodup : (world.flights.map (·.id)).Nodup
  sound : world.gate.Sound
  slots : world.gate.slots = Gate.slotsOf config.maxConcurrent
  /-- A slot is held exactly during an exchange. -/
  holds_iff : ∀ flight ∈ world.flights,
    world.gate.Holds flight.id ↔ flight.stage.isExchanging = true
  /-- Only queued requests wait at the gate. -/
  queued_of_waits : ∀ flight ∈ world.flights,
    world.gate.Waits flight.id → flight.stage.isQueued = true
  /-- Nobody is at the gate who is not a request. -/
  known : ∀ taker, world.gate.Holds taker ∨ world.gate.Waits taker →
    ∃ flight ∈ world.flights, flight.id = taker

end World

/-! ## The standing of a request at the gate -/

/-- The stages to which the answers of the gate lead. -/
inductive Admission.LeadsTo : Admission → Stage → Prop
  | refused (result : Outcome) : LeadsTo .refused (.finished result)
  | admitted (exchange : Exchange) : LeadsTo .admitted (.exchanging exchange)
  | waiting (attempt : Nat) : LeadsTo .waiting (.queued attempt)

namespace Admission.LeadsTo

variable {answer : Admission} {stage : Stage}

theorem isExchanging_iff (leads : answer.LeadsTo stage) :
    answer = .admitted ↔ stage.isExchanging = true := by
  cases leads <;> simp [Stage.isExchanging, Stage.exchange?]

theorem isQueued (leads : answer.LeadsTo stage) (waits : answer = .waiting) :
    stage.isQueued = true := by
  cases leads with
  | waiting attempt => rfl
  | _ => cases waits

end Admission.LeadsTo

/-- A change whose effect on the gate is the one that the new stage of the request calls for, and
that leaves the standing of all others as it is. -/
structure Change.Fits (gate : Gate) (change : Change) : Prop where
  sound : change.gate.Sound
  slots : change.gate.slots = gate.slots
  holds_other : ∀ other ≠ change.flight.id, change.gate.Holds other ↔ gate.Holds other
  waits_other : ∀ other ≠ change.flight.id, change.gate.Waits other ↔ gate.Waits other
  holds_self : change.gate.Holds change.flight.id ↔ change.flight.stage.isExchanging = true
  waits_self : change.gate.Waits change.flight.id → change.flight.stage.isQueued = true

namespace Change.Fits

variable {gate : Gate} {signals : List Signal} {breaker : Breaker} {flight : Flight} {stage : Stage}

/-- A request that does not come to the gate, and keeps a slot only if it has one. -/
theorem stay (sound : gate.Sound)
    (holds : gate.Holds flight.id ↔ flight.stage.isExchanging = true)
    (waits : ¬ gate.Waits flight.id) : Change.Fits gate ⟨signals, gate, breaker, flight⟩ where
  sound := sound
  slots := rfl
  holds_other := fun _ _ => Iff.rfl
  waits_other := fun _ _ => Iff.rfl
  holds_self := holds
  waits_self := fun waiting => absurd waiting waits

/-- A request that comes to the gate and does what the gate answers. -/
theorem enter (sound : gate.Sound) (notHolding : ¬ gate.Holds flight.id)
    (notWaiting : ¬ gate.Waits flight.id) (leads : (gate.enter flight.id).1.LeadsTo stage) :
    Change.Fits gate ⟨signals, (gate.enter flight.id).2, breaker, flight.onward stage⟩ where
  sound := sound.enter notWaiting notHolding
  slots := gate.slots_enter flight.id
  holds_other := fun other (differ : other ≠ flight.id) => by simp [gate.holds_enter, differ]
  waits_other := fun other (differ : other ≠ flight.id) => by simp [gate.waits_enter, differ]
  holds_self := by simp [gate.holds_enter, notHolding, leads.isExchanging_iff]
  waits_self := by
    intro waits
    rcases (gate.waits_enter _ _).1 waits with old | ⟨_, new⟩
    · exact absurd old notWaiting
    · exact leads.isQueued new

/-- A request that waits at the gate and does what the gate answers. -/
theorem claim (sound : gate.Sound) (notHolding : ¬ gate.Holds flight.id)
    (leads : (gate.claim flight.id).1.LeadsTo stage) :
    Change.Fits gate ⟨signals, (gate.claim flight.id).2, breaker, flight.onward stage⟩ where
  sound := sound.claim flight.id
  slots := gate.slots_claim flight.id
  holds_other := fun other (differ : other ≠ flight.id) => by simp [gate.holds_claim, differ]
  waits_other := fun other (differ : other ≠ flight.id) => by simp [sound.waits_claim, differ]
  holds_self := by simp [gate.holds_claim, notHolding, leads.isExchanging_iff]
  waits_self := fun waits => leads.isQueued (((sound.waits_claim _ _).1 waits).2 rfl)

/-- A request that waits at the gate and walks away. -/
theorem abandon (sound : gate.Sound) (notHolding : ¬ gate.Holds flight.id)
    (noSlot : stage.isExchanging = false) :
    Change.Fits gate ⟨signals, gate.abandon flight.id, breaker, flight.onward stage⟩ where
  sound := sound.abandon flight.id
  slots := gate.slots_abandon flight.id
  holds_other := fun other _ => gate.holds_abandon flight.id other
  waits_other := fun other (differ : other ≠ flight.id) => by simp [sound.waits_abandon, differ]
  holds_self := by simp [gate.holds_abandon, notHolding, noSlot]
  waits_self := fun waits => absurd rfl ((sound.waits_abandon _ _).1 waits).2

/-- A request that gives back its slot. -/
theorem leave (sound : gate.Sound) (notWaiting : ¬ gate.Waits flight.id)
    (noSlot : stage.isExchanging = false) :
    Change.Fits gate ⟨signals, gate.leave flight.id, breaker, flight.onward stage⟩ where
  sound := sound.leave flight.id
  slots := gate.slots_leave flight.id
  holds_other := fun other (differ : other ≠ flight.id) => by simp [sound.holds_leave, differ]
  waits_other := fun other _ => gate.waits_leave flight.id other
  holds_self := by simp [sound.holds_leave, noSlot]
  waits_self := fun waits => absurd ((gate.waits_leave _ _).1 waits) notWaiting

end Change.Fits

variable {config : Config} {world : World} {flight : Flight} {change : Change}

namespace World.Orderly

/-- A request outside an exchange holds no slot. -/
theorem not_holds (orderly : world.Orderly config) (member : flight ∈ world.flights)
    (stage : flight.stage.isExchanging = false) : ¬ world.gate.Holds flight.id := fun holds => by
  simp [(orderly.holds_iff flight member).1 holds] at stage

/-- A request that is not queued does not wait at the gate. -/
theorem not_waits (orderly : world.Orderly config) (member : flight ∈ world.flights)
    (stage : flight.stage.isQueued = false) : ¬ world.gate.Waits flight.id := fun waits => by
  simp [orderly.queued_of_waits flight member waits] at stage

end World.Orderly

/-- **Every turn fits the gate.** -/
theorem Turn.fits (orderly : world.Orderly config) (member : flight ∈ world.flights)
    (turn : Turn world flight change) : change.Fits world.gate := by
  have sound := orderly.sound
  have holds := orderly.holds_iff flight member
  have noSlot := orderly.not_holds member
  have noWait := orderly.not_waits member
  cases turn with
  | start stage =>
      rw [stage] at holds noWait
      exact .stay sound holds (noWait rfl)
  | reject stage =>
      rw [stage] at holds noWait
      exact .stay sound holds (noWait rfl)
  | pass stage =>
      rw [stage] at holds noWait
      exact .stay sound holds (noWait rfl)
  | retreat stage =>
      rw [stage] at holds noWait
      exact .stay sound holds (noWait rfl)
  | refuse stage _ answer =>
      rw [stage] at noSlot noWait
      exact .enter sound (noSlot rfl) (noWait rfl) (answer ▸ .refused _)
  | enter stage _ answer =>
      rw [stage] at noSlot noWait
      exact .enter sound (noSlot rfl) (noWait rfl) (answer ▸ .admitted _)
  | queue stage _ answer =>
      rw [stage] at noSlot noWait
      exact .enter sound (noSlot rfl) (noWait rfl) (answer ▸ .waiting _)
  | withdraw stage =>
      rw [stage] at noSlot
      exact .abandon sound (noSlot rfl) rfl
  | expel stage _ answer =>
      rw [stage] at noSlot
      exact .claim sound (noSlot rfl) (answer ▸ .refused _)
  | claim stage _ answer =>
      rw [stage] at noSlot
      exact .claim sound (noSlot rfl) (answer ▸ .admitted _)
  | wait stage _ answer =>
      rw [stage] at noSlot
      exact .claim sound (noSlot rfl) (answer ▸ .waiting _)
  | sever stage =>
      rw [stage] at noWait
      exact .leave sound (noWait rfl) rfl
  | tend stage =>
      rw [stage] at holds noWait
      exact .stay sound holds (noWait rfl)
  | surrender stage =>
      rw [stage] at noWait
      exact .leave sound (noWait rfl) rfl
  | retry stage =>
      rw [stage] at noWait
      exact .leave sound (noWait rfl) rfl
  | resolve stage =>
      rw [stage] at noWait
      exact .leave sound (noWait rfl) rfl
  | quit stage =>
      rw [stage] at holds noWait
      exact .stay sound holds (noWait rfl)
  | resume stage =>
      rw [stage] at holds noWait
      exact .stay sound holds (noWait rfl)
  | dropQueued stage =>
      rw [stage] at noSlot
      exact .abandon sound (noSlot rfl) rfl
  | dropExchanging stage =>
      rw [stage] at noWait
      exact .leave sound (noWait rfl) rfl
  | dropElsewhere notQueued notExchanging =>
      have outside : flight.stage.isExchanging = false := by
        simp [Stage.isExchanging, notExchanging]
      refine .stay sound ⟨fun held => absurd held (noSlot outside), ?_⟩ (noWait notQueued)
      intro impossible
      cases impossible

/-! ## The books agree after every step -/

namespace World

theorem orderly_new (config : Config) : (new config).Orderly config where
  nodup := List.nodup_nil
  sound := Gate.sound_new config.maxConcurrent
  slots := rfl
  holds_iff := by simp [new]
  queued_of_waits := by simp [new]
  known := by simp [new, Gate.new, Gate.Holds, Gate.Waits]

namespace Orderly

/-- A change that fits keeps the books in agreement. -/
theorem apply (orderly : world.Orderly config) (fits : change.Fits world.gate)
    (member : flight ∈ world.flights) (same : change.flight.id = flight.id) :
    (world.apply change).Orderly config where
  nodup := by
    rw [ids_apply]
    exact orderly.nodup
  sound := fits.sound
  slots := fits.slots.trans orderly.slots
  holds_iff := by
    intro other present
    rcases (world.mem_flights_apply change other).1 present with ⟨rfl, _⟩ | ⟨before, differ⟩
    · exact fits.holds_self
    · exact (fits.holds_other other.id differ).trans (orderly.holds_iff other before)
  queued_of_waits := by
    intro other present waits
    rcases (world.mem_flights_apply change other).1 present with ⟨rfl, _⟩ | ⟨before, differ⟩
    · exact fits.waits_self waits
    · exact orderly.queued_of_waits other before ((fits.waits_other other.id differ).1 waits)
  known := by
    intro taker atGate
    by_cases self : taker = change.flight.id
    · exact ⟨change.flight, (world.mem_flights_apply change _).2
        (.inl ⟨rfl, flight, member, same.symm⟩), self.symm⟩
    · obtain ⟨other, before, rfl⟩ := orderly.known taker
        (atGate.imp (fits.holds_other taker self).1 (fits.waits_other taker self).1)
      exact ⟨other, (world.mem_flights_apply change other).2 (.inr ⟨before, self⟩), rfl⟩

/-- A new request is not at the gate. -/
theorem submit (orderly : world.Orderly config) {id : Nat} (request : Request)
    (watcher : Option Handler) (fresh : ∀ flight ∈ world.flights, flight.id ≠ id)
    (journal : List (Nat × Signal)) :
    Orderly config
      { world with journal, flights := world.flights ++ [{ id, request, watcher }] } where
  nodup := by
    rw [List.map_append, List.nodup_append]
    refine ⟨orderly.nodup, List.nodup_singleton _, ?_⟩
    intro taken member new only same
    obtain ⟨flight, present, rfl⟩ := List.mem_map.1 member
    rw [List.mem_singleton.1 only] at same
    exact fresh flight present same
  sound := orderly.sound
  slots := orderly.slots
  holds_iff := by
    intro flight member
    rcases List.mem_append.1 member with old | new
    · exact orderly.holds_iff flight old
    · rw [List.mem_singleton.1 new]
      refine ⟨fun holds => ?_, fun impossible => by cases impossible⟩
      obtain ⟨other, present, same⟩ := orderly.known id (.inl holds)
      exact absurd same (fresh other present)
  queued_of_waits := by
    intro flight member waits
    rcases List.mem_append.1 member with old | new
    · exact orderly.queued_of_waits flight old waits
    · rw [List.mem_singleton.1 new] at waits
      obtain ⟨other, present, same⟩ := orderly.known id (.inr waits)
      exact absurd same (fresh other present)
  known := by
    intro taker atGate
    obtain ⟨flight, member, same⟩ := orderly.known taker atGate
    exact ⟨flight, List.mem_append_left _ member, same⟩

/-- Closing the gate only ends waits. -/
theorem close (orderly : world.Orderly config) (journal : List (Nat × Signal)) :
    Orderly config { world with journal, gate := world.gate.close } where
  nodup := orderly.nodup
  sound := orderly.sound.close
  slots := orderly.slots
  holds_iff := orderly.holds_iff
  queued_of_waits := fun flight member waits =>
    orderly.queued_of_waits flight member (Gate.Waits.of_close waits)
  known := fun taker atGate => orderly.known taker (atGate.imp_right Gate.Waits.of_close)

/-- **Every move keeps the books in agreement.** -/
theorem move {after : World} (orderly : world.Orderly config) (move : Move world after) :
    after.Orderly config := by
  cases move with
  | idle => exact orderly
  | submit id request watcher fresh => exact orderly.submit request watcher fresh _
  | turn member turn => exact orderly.apply (turn.fits orderly member) member turn.id_eq
  | cancel token => exact { orderly with }
  | shutDown => exact orderly.close _
  | closeGate => exact orderly.close _
  | ask host => exact { orderly with }
  | advance span => exact { orderly with }

end Orderly

/-- The books agree in every reachable world. -/
theorem orderly_run (config : Config) (labels : List Label) :
    ((new config).run labels).Orderly config :=
  invariant config (Orderly config) (orderly_new config) (fun _ _ orderly move => orderly.move move)
    labels

end World

/-! ## The gauge counts the exchanges -/

/-- Only the begin and the end of an exchange move the gauge. -/
theorem Metric.amount_inFlight (signal : Signal) :
    Metric.inFlight.amount signal =
      match signal with
      | .called _ _ _ _ _ => 1
      | .ended _ _ _ => -1
      | _ => 0 := by
  cases signal <;>
    simp [Metric.amount, Metric.change?, Metric.inFlight, Metric.rejections, Metric.retries,
      Metric.requests]

/-- A turn moves the gauge as it moves its request into an exchange or out of it. -/
theorem Turn.gauge_eq (turn : Turn world flight change) :
    (change.signals.map Metric.inFlight.amount).sum +
        ((if flight.stage.isExchanging then 1 else 0 : Nat) : Int) =
      ((if change.flight.stage.isExchanging then 1 else 0 : Nat) : Int) := by
  have recordings : ∀ attempt outcome,
      ((flight.recordings attempt outcome).map Metric.inFlight.amount).sum = 0 := by
    intro attempt outcome
    unfold Flight.recordings
    split <;> simp [Metric.amount_inFlight]
  cases turn with
  | start stage =>
      simp [stage, World.moving, Metric.amount_inFlight, Stage.isExchanging, Stage.exchange?,
        Function.comp_def]
  | dropElsewhere _ notExchanging =>
      have outside : flight.stage.isExchanging = false := by
        simp [Stage.isExchanging, notExchanging]
      have dropped : Stage.dropped.isExchanging = false := rfl
      simp [World.moving, outside, dropped]
  -- Elsewhere the stages before and after are known, and with them both sides are numbers.
  | _ stage =>
      simp [stage, World.moving, Metric.amount_inFlight, Stage.isExchanging, Stage.exchange?,
        Flight.verdict, recordings]

namespace World

theorem gauge_apply (world : World) (change : Change) :
    (world.apply change).gauge =
      world.gauge + (change.signals.map Metric.inFlight.amount).sum := by
  simp only [gauge, history_apply, Metrics.value_ofSignals, List.map_append, List.sum_append]

/-- A signal that neither begins nor ends an exchange leaves the gauge where it is. -/
theorem gauge_note (world : World) (signal : Signal) (still : Metric.inFlight.amount signal = 0) :
    (world.note signal).gauge = world.gauge := by
  simp [gauge, history, note, Metrics.value_ofSignals, still]

/-- The gauge shows the number of exchanges. -/
def Gauged (world : World) : Prop :=
  world.gauge = world.flights.countP fun flight => flight.stage.isExchanging

theorem Gauged.move {after : World} (orderly : world.Orderly config) (gauged : world.Gauged)
    (move : Move world after) : after.Gauged := by
  unfold Gauged at gauged ⊢
  cases move with
  | idle => exact gauged
  | submit id request watcher =>
      have same := world.gauge_note (.submitted id request.method request.url)
        (Metric.amount_inFlight _)
      exact same.trans (gauged.trans (by simp [Stage.isExchanging, Stage.exchange?]))
  | @turn flight change member turn =>
      have counts := countP_apply orderly.nodup member turn.id_eq
        fun flight => flight.stage.isExchanging
      have moved := turn.gauge_eq
      rw [gauge_apply, gauged]
      omega
  | cancel token => exact gauged
  | shutDown => exact (world.gauge_note .shutDown (Metric.amount_inFlight _)).trans gauged
  | closeGate => exact gauged
  | ask host => exact gauged
  | advance span => exact gauged

/-- The gauge shows the number of exchanges in every reachable world. -/
theorem gauged_run (config : Config) (labels : List Label) :
    ((new config).run labels).Gauged := by
  have both := invariant config
    (fun world => world.Orderly config ∧ world.Gauged) ⟨orderly_new config, rfl⟩
    (fun _ _ kept move => ⟨kept.1.move move, kept.2.move kept.1 move⟩) labels
  exact both.2

/-! ## The account of all slots -/

/-- An exchange in flight is a request in the stage of an exchange. -/
theorem length_exchanges (world : World) :
    world.exchanges.length = world.flights.countP fun flight => flight.stage.isExchanging :=
  List.length_filterMap_eq_countP

namespace Orderly

/-- The attempts with a slot are those that the gate has granted one or that hold one. -/
theorem hasSlot_iff (orderly : world.Orderly config) (member : flight ∈ world.flights) :
    world.hasSlot flight = true ↔
      flight.id ∈ world.gate.granted ++ world.gate.held := by
  have holds := orderly.holds_iff flight member
  have waits := orderly.queued_of_waits flight member
  rw [List.mem_append]
  simp only [Gate.Holds, Gate.Waits, Stage.isExchanging] at holds waits
  cases stage : flight.stage <;>
    simp_all [hasSlot, Stage.exchange?, Stage.isQueued]

/-- The gate's list of grants and held slots is the list of the attempts with a slot. -/
theorem slots_perm (orderly : world.Orderly config) :
    (world.gate.granted ++ world.gate.held).Perm
      ((world.flights.filter world.hasSlot).map (·.id)) := by
  have distinct : (world.gate.granted ++ world.gate.held).Nodup := by
    rw [List.nodup_append]
    refine ⟨orderly.sound.granted_nodup, orderly.sound.held_nodup, ?_⟩
    intro taker granted other held same
    exact orderly.sound.held_not_waiting other held (.inr (same ▸ granted))
  have filtered : ((world.flights.filter world.hasSlot).map (·.id)).Nodup :=
    orderly.nodup.sublist (List.filter_sublist.map _)
  rw [List.perm_ext_iff_of_nodup distinct filtered]
  intro taker
  constructor
  · intro atGate
    obtain ⟨flight, member, rfl⟩ := orderly.known taker
      ((List.mem_append.1 atGate).symm.imp id .inr)
    exact List.mem_map.2 ⟨flight, List.mem_filter.2
      ⟨member, (orderly.hasSlot_iff member).2 atGate⟩, rfl⟩
  · intro listed
    obtain ⟨flight, filteredIn, rfl⟩ := List.mem_map.1 listed
    obtain ⟨member, slot⟩ := List.mem_filter.1 filteredIn
    exact (orderly.hasSlot_iff member).1 slot

/-- The slots in flight are those of the attempts that were granted one and have not ended. -/
theorem inFlight_eq (orderly : world.Orderly config) :
    world.gate.inFlight = world.flights.countP world.hasSlot := by
  rw [orderly.sound.inFlight_eq, ← List.length_append, orderly.slots_perm.length_eq,
    List.length_map, List.countP_eq_length_filter]

end Orderly

/-- **The account of all slots.** In every reachable world, whatever the order of the steps: the
slots in flight are those of the attempts that were granted a slot and have not ended; the exchanges
in flight are no more than the gauge shows, which is no more than the slots in flight, which are no
more than the gate has; a request that is neither queued nor in its exchange has no slot and no
grant; and when no request is live, no slot is in flight and the gauge shows zero. -/
theorem slots_accounted (config : Config) (labels : List Label) :
    let world := (new config).run labels
    world.gate.inFlight = world.flights.countP world.hasSlot ∧
    (world.exchanges.length : Int) ≤ world.gauge ∧
    world.gauge ≤ world.gate.inFlight ∧
    world.gate.inFlight ≤ Gate.slotsOf config.maxConcurrent ∧
    (∀ flight ∈ world.flights,
      flight.stage.isQueued = false → flight.stage.isExchanging = false →
        ¬ world.gate.Holds flight.id ∧ ¬ world.gate.Waits flight.id) ∧
    ((∀ flight ∈ world.flights, flight.stage.isLive = false) →
      world.gate.inFlight = 0 ∧ world.gauge = 0) := by
  intro world
  have orderly : world.Orderly config := orderly_run config labels
  have gauged : world.Gauged := gauged_run config labels
  have exchanges := world.length_exchanges
  have inFlight := orderly.inFlight_eq
  rw [Gauged] at gauged
  refine ⟨inFlight, ?_, ?_, ?_, ?_, ?_⟩
  · rw [exchanges]
    exact Int.le_of_eq gauged.symm
  · rw [gauged, inFlight, Int.ofNat_le]
    refine List.countP_mono_left fun flight _ exchanging => ?_
    cases stage : flight.stage <;>
      simp_all [hasSlot, Stage.isExchanging, Stage.exchange?]
  · rw [← orderly.slots]
    exact world.gate.inFlight_le_slots
  · intro flight member notQueued notExchanging
    exact ⟨orderly.not_holds member notExchanging, orderly.not_waits member notQueued⟩
  · intro ended
    have noSlot : world.flights.countP world.hasSlot = 0 := by
      refine List.countP_eq_zero.2 fun flight member => ?_
      have notLive := ended flight member
      cases stage : flight.stage <;> simp_all [hasSlot, Stage.isLive]
    have noExchange : (world.flights.countP fun flight => flight.stage.isExchanging) = 0 := by
      refine List.countP_eq_zero.2 fun flight member => ?_
      have notLive := ended flight member
      cases stage : flight.stage <;>
        simp_all [Stage.isExchanging, Stage.exchange?, Stage.isLive]
    exact ⟨inFlight.trans noSlot, by rw [gauged, noExchange]; rfl⟩

/-! ### Two requests and one slot

The first request has the slot when its caller walks away from it. The second, which waits at the
gate, is granted the slot and is cancelled before it can take it. -/

/-- A URL that names a host and nothing else. -/
def plainUrl : Url := { scheme := "http", host := some "a", hasAuthority := true }

/-- The request that both hand in. -/
def crowdingRequest : Request :=
  { method := .get, url := plainUrl, options := { cancellation := some "stop" } }

/-- Both requests come to the gate, and neither ends with an answer. -/
def crowdedRun : List Label :=
  [.submit 0 crowdingRequest none, .submit 1 crowdingRequest none,
    .poll 0, .poll 0, .poll 0, .poll 1, .poll 1, .poll 1, .drop 0, .cancel "stop", .poll 1]

/-- The world after that run. -/
def crowdedWorld : World := (new { maxConcurrent := some 1 }).run crowdedRun

/-- Neither a walk away from an exchange nor a grant that nobody takes costs a slot. -/
theorem slots_accounted_crowdedRun :
    (∀ flight ∈ crowdedWorld.flights, flight.stage.isLive = false) ∧
      crowdedWorld.gate.inFlight = 0 ∧ crowdedWorld.gauge = 0 := by
  have ended : ∀ flight ∈ crowdedWorld.flights, flight.stage.isLive = false := by
    decide +kernel
  obtain ⟨_, _, _, _, _, free⟩ := slots_accounted { maxConcurrent := some 1 } crowdedRun
  exact ⟨ended, free ended⟩

end World

end ResilientHttp
