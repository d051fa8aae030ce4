import ResilientHttp.Gate
import Mathlib.Data.List.Nodup

/-!
# Who has the slots of a gate

Every slot of a gate is free, granted to somebody who has not looked yet, or held. An operation
that takes a slot from its owner before it passes it on has one slot in hand for a moment, so the
balance is stated with the number of slots in hand (`Gate.Balanced`), and a slot that is given back
takes a balance with one slot in hand to a balance with none (`Balanced.giveBack`).

Nobody is at the gate twice, and somebody waits for a slot only when none is free and the gate is
open. All of this is kept by every operation.

For everybody at the gate it matters only whether they wait there (`Gate.Waits`, with or without a
grant that they have not seen) or hold a slot (`Gate.Holds`). Each operation changes this for the
taker that it names and for nobody else.
-/

set_option autoImplicit false

namespace ResilientHttp

namespace Gate

/-- Somebody waits at the gate, possibly with a grant that they have not seen yet. -/
def Waits (gate : Gate) (taker : Nat) : Prop := taker ∈ gate.queue ∨ taker ∈ gate.granted

/-- Somebody holds a slot. -/
def Holds (gate : Gate) (taker : Nat) : Prop := taker ∈ gate.held

/-- The books of a gate, while so many slots are in the hands of an operation. -/
structure Balanced (inHand : Nat) (gate : Gate) : Prop where
  /-- Every slot is in exactly one place. -/
  conserved : gate.free + gate.granted.length + gate.held.length + inHand = gate.slots
  /-- Nobody is at the gate twice. -/
  queue_nodup : gate.queue.Nodup
  granted_nodup : gate.granted.Nodup
  held_nodup : gate.held.Nodup
  granted_not_queued : ∀ taker ∈ gate.granted, taker ∉ gate.queue
  held_not_waiting : ∀ taker ∈ gate.held, ¬ gate.Waits taker
  /-- Nobody is left waiting while a slot is free. -/
  full : gate.queue ≠ [] → gate.free = 0
  /-- Nobody waits at a closed gate. -/
  shut : gate.closed = true → gate.queue = []

/-- The books of a gate between two operations. -/
abbrev Sound (gate : Gate) : Prop := gate.Balanced 0

/-- A new gate has sound books. -/
theorem sound_new (capacity : Option Nat) : (Gate.new capacity).Sound where
  conserved := by simp [Gate.new, slots]
  queue_nodup := List.nodup_nil
  granted_nodup := List.nodup_nil
  held_nodup := List.nodup_nil
  granted_not_queued := by simp [Gate.new]
  held_not_waiting := by simp [Gate.new]
  full := by simp [Gate.new]
  shut := by simp [Gate.new]

/-- The slots in flight are those that are granted or held. -/
theorem Balanced.inFlight_eq {gate : Gate} (sound : gate.Sound) :
    gate.inFlight = gate.granted.length + gate.held.length := by
  have conserved := sound.conserved
  unfold inFlight
  omega

/-- No more slots are in flight than there are. -/
theorem inFlight_le_slots (gate : Gate) : gate.inFlight ≤ gate.slots := Nat.sub_le _ _

/-! ## Giving back -/

@[simp]
theorem slots_giveBack (gate : Gate) : gate.giveBack.slots = gate.slots := by
  unfold giveBack slots; split <;> rfl

@[simp]
theorem held_giveBack (gate : Gate) : gate.giveBack.held = gate.held := by
  unfold giveBack; split <;> rfl

/-- A slot that comes back may turn a wait into a grant, but ends nobody's wait. -/
theorem waits_giveBack (gate : Gate) (taker : Nat) :
    gate.giveBack.Waits taker ↔ gate.Waits taker := by
  unfold giveBack Waits
  split
  · rename_i first rest queue
    simp only [queue, List.mem_cons, List.mem_append, List.not_mem_nil, or_false]
    tauto
  · rfl

/-- The slot in hand goes to the first who waits, or to the free ones. -/
theorem Balanced.giveBack {gate : Gate} (books : gate.Balanced 1) : gate.giveBack.Sound := by
  have notWaiting : ∀ taker ∈ gate.giveBack.held, ¬ gate.giveBack.Waits taker := by
    intro taker holds waits
    rw [held_giveBack] at holds
    exact books.held_not_waiting taker holds ((waits_giveBack gate taker).1 waits)
  cases queue : gate.queue with
  | nil =>
      have after : gate.giveBack = { gate with free := gate.free + 1 } := by
        simp only [Gate.giveBack, queue]
      rw [after] at notWaiting ⊢
      exact
        { conserved := by have := books.conserved; simp only [slots] at this ⊢; omega
          queue_nodup := books.queue_nodup
          granted_nodup := books.granted_nodup
          held_nodup := books.held_nodup
          granted_not_queued := books.granted_not_queued
          held_not_waiting := notWaiting
          full := fun waiting => absurd queue waiting
          shut := books.shut }
  | cons first rest =>
      have after : gate.giveBack =
          { gate with queue := rest, granted := gate.granted ++ [first] } := by
        simp only [Gate.giveBack, queue]
      have nodup := books.queue_nodup
      have noneFree := books.full (by simp [queue])
      rw [queue, List.nodup_cons] at nodup
      rw [after] at notWaiting ⊢
      have ungranted : first ∉ gate.granted := fun member =>
        books.granted_not_queued first member (by simp [queue])
      exact
        { conserved := by
            have := books.conserved
            simp only [slots, List.length_append, List.length_singleton] at this ⊢
            omega
          queue_nodup := nodup.2
          granted_nodup := by
            rw [List.nodup_append]
            refine ⟨books.granted_nodup, List.nodup_singleton _, ?_⟩
            intro taker member other only same
            rw [List.mem_singleton.1 only] at same
            exact ungranted (same ▸ member)
          held_nodup := books.held_nodup
          granted_not_queued := by
            intro taker member
            rcases List.mem_append.1 member with old | new
            · exact fun later =>
                books.granted_not_queued taker old (by simp [queue, later])
            · rw [List.mem_singleton.1 new]
              exact nodup.1
          held_not_waiting := notWaiting
          full := fun _ => noneFree
          shut := fun closed => by simp [books.shut closed] at queue }

/-! ## Taking a slot from its owner, and giving it to another -/

/-- Whoever loses a grant leaves the operation with one slot in hand. -/
theorem Balanced.ungrant {gate : Gate} {taker : Nat} (sound : gate.Sound)
    (granted : taker ∈ gate.granted) :
    ({ gate with granted := gate.granted.erase taker } : Gate).Balanced 1 where
  conserved := by
    have conserved := sound.conserved
    have length := List.length_erase_of_mem granted
    have positive := List.length_pos_of_mem granted
    simp only [slots] at conserved ⊢
    omega
  queue_nodup := sound.queue_nodup
  granted_nodup := sound.granted_nodup.erase taker
  held_nodup := sound.held_nodup
  granted_not_queued := fun other member =>
    sound.granted_not_queued other (List.mem_of_mem_erase member)
  held_not_waiting := fun other holds waits =>
    sound.held_not_waiting other holds (waits.imp_right List.mem_of_mem_erase)
  full := sound.full
  shut := sound.shut

/-- Whoever loses a held slot leaves the operation with one slot in hand. -/
theorem Balanced.unhold {gate : Gate} {taker : Nat} (sound : gate.Sound)
    (held : taker ∈ gate.held) :
    ({ gate with held := gate.held.erase taker } : Gate).Balanced 1 where
  conserved := by
    have conserved := sound.conserved
    have length := List.length_erase_of_mem held
    have positive := List.length_pos_of_mem held
    simp only [slots] at conserved ⊢
    omega
  queue_nodup := sound.queue_nodup
  granted_nodup := sound.granted_nodup
  held_nodup := sound.held_nodup.erase taker
  granted_not_queued := sound.granted_not_queued
  held_not_waiting := fun other holds =>
    sound.held_not_waiting other (List.mem_of_mem_erase holds)
  full := sound.full
  shut := sound.shut

/-- A free slot can be taken in hand. -/
theorem Balanced.unfree {gate : Gate} (sound : gate.Sound) (free : 0 < gate.free) :
    ({ gate with free := gate.free - 1 } : Gate).Balanced 1 where
  conserved := by
    have conserved := sound.conserved
    simp only [slots] at conserved ⊢
    omega
  queue_nodup := sound.queue_nodup
  granted_nodup := sound.granted_nodup
  held_nodup := sound.held_nodup
  granted_not_queued := sound.granted_not_queued
  held_not_waiting := sound.held_not_waiting
  full := fun waiting => by have := sound.full waiting; simp only; omega
  shut := sound.shut

/-- The slot in hand goes to somebody who is not at the gate. -/
theorem Balanced.hold {gate : Gate} {taker : Nat} (books : gate.Balanced 1)
    (notWaiting : ¬ gate.Waits taker) (notHolding : ¬ gate.Holds taker) :
    ({ gate with held := gate.held ++ [taker] } : Gate).Sound where
  conserved := by
    have conserved := books.conserved
    simp only [slots, List.length_append, List.length_singleton] at conserved ⊢
    omega
  queue_nodup := books.queue_nodup
  granted_nodup := books.granted_nodup
  held_nodup := by
    rw [List.nodup_append]
    refine ⟨books.held_nodup, List.nodup_singleton _, ?_⟩
    intro other member last only same
    rw [List.mem_singleton.1 only] at same
    exact notHolding (same ▸ member)
  granted_not_queued := books.granted_not_queued
  held_not_waiting := by
    intro other holds
    rcases List.mem_append.1 holds with old | new
    · exact books.held_not_waiting other old
    · rw [List.mem_singleton.1 new]
      exact notWaiting
  full := books.full
  shut := books.shut

/-! ## Entering -/

/-- What happens to somebody who comes: nobody enters a closed gate, a free slot is given away, and
otherwise the newcomer is the last who waits. -/
theorem enter_cases (gate : Gate) (taker : Nat) :
    (gate.closed = true ∧ gate.enter taker = (.refused, gate)) ∨
    (gate.closed = false ∧ 0 < gate.free ∧
      gate.enter taker =
        (.admitted, { gate with free := gate.free - 1, held := gate.held ++ [taker] })) ∨
    (gate.closed = false ∧ gate.free = 0 ∧
      gate.enter taker = (.waiting, { gate with queue := gate.queue ++ [taker] })) := by
  unfold enter
  split
  · exact .inl ⟨‹_›, rfl⟩
  · rename_i opened
    split
    · exact .inr (.inl ⟨by simpa using opened, ‹_›, rfl⟩)
    · exact .inr (.inr ⟨by simpa using opened, by omega, rfl⟩)

theorem Balanced.enter {gate : Gate} {taker : Nat} (sound : gate.Sound)
    (notWaiting : ¬ gate.Waits taker) (notHolding : ¬ gate.Holds taker) :
    (gate.enter taker).2.Sound := by
  rcases gate.enter_cases taker with ⟨_, same⟩ | ⟨_, free, admitted⟩ | ⟨opened, noneFree, waiting⟩
  · rw [same]
    exact sound
  · rw [admitted]
    exact (sound.unfree free).hold notWaiting notHolding
  · rw [waiting]
    exact
      { conserved := sound.conserved
        queue_nodup := by
          rw [List.nodup_append]
          refine ⟨sound.queue_nodup, List.nodup_singleton _, ?_⟩
          intro other member last only same
          rw [List.mem_singleton.1 only] at same
          exact notWaiting (.inl (same ▸ member))
        granted_nodup := sound.granted_nodup
        held_nodup := sound.held_nodup
        granted_not_queued := by
          intro other granted queued
          rcases List.mem_append.1 queued with old | new
          · exact sound.granted_not_queued other granted old
          · exact notWaiting (.inr (List.mem_singleton.1 new ▸ granted))
        held_not_waiting := by
          rintro other holds (queued | granted)
          · rcases List.mem_append.1 queued with old | new
            · exact sound.held_not_waiting other holds (.inl old)
            · exact notHolding (List.mem_singleton.1 new ▸ holds)
          · exact sound.held_not_waiting other holds (.inr granted)
        full := fun _ => noneFree
        shut := fun closed => by simp [opened] at closed }

/-- Only who is admitted holds a slot after entering who held none before. -/
theorem holds_enter (gate : Gate) (taker other : Nat) :
    (gate.enter taker).2.Holds other ↔
      gate.Holds other ∨ other = taker ∧ (gate.enter taker).1 = .admitted := by
  rcases gate.enter_cases taker with ⟨_, same⟩ | ⟨_, _, same⟩ | ⟨_, _, same⟩ <;>
    simp [same, Holds]

/-- Only who is told to wait waits after entering who did not wait before. -/
theorem waits_enter (gate : Gate) (taker other : Nat) :
    (gate.enter taker).2.Waits other ↔
      gate.Waits other ∨ other = taker ∧ (gate.enter taker).1 = .waiting := by
  rcases gate.enter_cases taker with ⟨_, same⟩ | ⟨_, _, same⟩ | ⟨_, _, same⟩
  · simp [same]
  · simp [same, Waits]
  · simp only [same, Waits, List.mem_append, List.mem_singleton, and_true]
    tauto

/-! ## Claiming -/

/-- What happens to somebody who looks whether a slot has come. -/
theorem claim_cases (gate : Gate) (taker : Nat) :
    (taker ∈ gate.granted ∧ gate.closed = true ∧
      gate.claim taker =
        (.refused, ({ gate with granted := gate.granted.erase taker } : Gate).giveBack)) ∨
    (taker ∈ gate.granted ∧ gate.closed = false ∧
      gate.claim taker =
        (.admitted,
          { gate with
            granted := gate.granted.erase taker
            held := gate.held ++ [taker] })) ∨
    (taker ∉ gate.granted ∧ gate.closed = true ∧ gate.claim taker = (.refused, gate)) ∨
    (taker ∉ gate.granted ∧ gate.closed = false ∧ gate.claim taker = (.waiting, gate)) := by
  by_cases granted : taker ∈ gate.granted <;> cases closed : gate.closed <;>
    simp [claim, granted, closed]

/-- Somebody whose grant is taken away does not wait any more. -/
theorem Balanced.not_waits_ungrant {gate : Gate} {taker : Nat} (sound : gate.Sound)
    (granted : taker ∈ gate.granted) :
    ¬ ({ gate with granted := gate.granted.erase taker } : Gate).Waits taker := by
  rintro (queued | again)
  · exact sound.granted_not_queued taker granted queued
  · exact sound.granted_nodup.not_mem_erase again

/-- Taking away a grant ends the wait of its owner and of nobody else. -/
theorem Balanced.waits_ungrant {gate : Gate} {taker : Nat} (sound : gate.Sound)
    (granted : taker ∈ gate.granted) (other : Nat) :
    ({ gate with granted := gate.granted.erase taker } : Gate).Waits other ↔
      gate.Waits other ∧ other ≠ taker := by
  by_cases same : other = taker
  · subst same
    simp [sound.not_waits_ungrant granted]
  · simp [Waits, List.mem_erase_of_ne same, same]

theorem Balanced.claim {gate : Gate} (sound : gate.Sound) (taker : Nat) :
    (gate.claim taker).2.Sound := by
  rcases gate.claim_cases taker with
    ⟨granted, _, after⟩ | ⟨granted, _, after⟩ | ⟨_, _, after⟩ | ⟨_, _, after⟩
  · rw [after]
    exact (sound.ungrant granted).giveBack
  · rw [after]
    exact (sound.ungrant granted).hold (sound.not_waits_ungrant granted)
      fun holds => sound.held_not_waiting taker holds (.inr granted)
  · rw [after]
    exact sound
  · rw [after]
    exact sound

/-- Only who is admitted holds a slot after claiming who held none before. -/
theorem holds_claim (gate : Gate) (taker other : Nat) :
    (gate.claim taker).2.Holds other ↔
      gate.Holds other ∨ other = taker ∧ (gate.claim taker).1 = .admitted := by
  rcases gate.claim_cases taker with
    ⟨_, _, after⟩ | ⟨_, _, after⟩ | ⟨_, _, after⟩ | ⟨_, _, after⟩ <;>
    simp [after, Holds]

/-- A claim ends the wait of the claimant unless they are told to go on waiting. -/
theorem Balanced.waits_claim {gate : Gate} (sound : gate.Sound) (taker other : Nat) :
    (gate.claim taker).2.Waits other ↔
      gate.Waits other ∧ (other = taker → (gate.claim taker).1 = .waiting) := by
  rcases gate.claim_cases taker with
    ⟨granted, _, after⟩ | ⟨granted, _, after⟩ | ⟨ungranted, closed, after⟩ | ⟨_, _, after⟩
  · simp [after, waits_giveBack, sound.waits_ungrant granted]
  · have ends := sound.waits_ungrant granted other
    simp only [Waits] at ends ⊢
    simp [after, ends]
  · have nobody := sound.shut closed
    simp only [after, Waits, nobody, List.not_mem_nil, false_or, reduceCtorEq, imp_false]
    exact ⟨fun member => ⟨member, fun same => ungranted (same ▸ member)⟩, And.left⟩
  · simp [after]

/-! ## Walking away, leaving, closing -/

/-- What happens when somebody who waits walks away. -/
theorem abandon_cases (gate : Gate) (taker : Nat) :
    (taker ∈ gate.queue ∧
      gate.abandon taker = { gate with queue := gate.queue.erase taker }) ∨
    (taker ∉ gate.queue ∧ taker ∈ gate.granted ∧
      gate.abandon taker =
        ({ gate with granted := gate.granted.erase taker } : Gate).giveBack) ∨
    (¬ gate.Waits taker ∧ gate.abandon taker = gate) := by
  by_cases queued : taker ∈ gate.queue <;> by_cases granted : taker ∈ gate.granted <;>
    simp [abandon, Waits, queued, granted]

theorem Balanced.abandon {gate : Gate} (sound : gate.Sound) (taker : Nat) :
    (gate.abandon taker).Sound := by
  rcases gate.abandon_cases taker with ⟨queued, after⟩ | ⟨_, granted, after⟩ | ⟨_, after⟩
  · rw [after]
    exact
      { conserved := sound.conserved
        queue_nodup := sound.queue_nodup.erase taker
        granted_nodup := sound.granted_nodup
        held_nodup := sound.held_nodup
        granted_not_queued := fun other granted later =>
          sound.granted_not_queued other granted (List.mem_of_mem_erase later)
        held_not_waiting := fun other holds waits =>
          sound.held_not_waiting other holds (waits.imp_left List.mem_of_mem_erase)
        full := fun _ => sound.full (List.ne_nil_of_mem queued)
        shut := fun closed => by simp [sound.shut closed] at queued }
  · rw [after]
    exact (sound.ungrant granted).giveBack
  · rw [after]
    exact sound

/-- Walking away takes a slot from nobody who holds one. -/
theorem holds_abandon (gate : Gate) (taker other : Nat) :
    (gate.abandon taker).Holds other ↔ gate.Holds other := by
  rcases gate.abandon_cases taker with ⟨_, after⟩ | ⟨_, _, after⟩ | ⟨_, after⟩ <;>
    simp [after, Holds]

/-- Walking away ends the wait of whoever walks away and of nobody else. -/
theorem Balanced.waits_abandon {gate : Gate} (sound : gate.Sound) (taker other : Nat) :
    (gate.abandon taker).Waits other ↔ gate.Waits other ∧ other ≠ taker := by
  rcases gate.abandon_cases taker with ⟨queued, after⟩ | ⟨_, granted, after⟩ | ⟨absent, after⟩
  · by_cases same : other = taker
    · subst same
      have ungranted : other ∉ gate.granted := fun granted =>
        sound.granted_not_queued other granted queued
      simp [after, Waits, sound.queue_nodup.not_mem_erase, ungranted]
    · simp [after, Waits, List.mem_erase_of_ne same, same]
  · rw [after, waits_giveBack]
    exact sound.waits_ungrant granted other
  · rw [after]
    exact ⟨fun waits => ⟨waits, fun same => absent (same ▸ waits)⟩, And.left⟩

/-- What happens when somebody gives back a slot. -/
theorem leave_cases (gate : Gate) (taker : Nat) :
    (taker ∈ gate.held ∧
      gate.leave taker = ({ gate with held := gate.held.erase taker } : Gate).giveBack) ∨
    (taker ∉ gate.held ∧ gate.leave taker = gate) := by
  by_cases held : taker ∈ gate.held <;> simp [leave, held]

theorem Balanced.leave {gate : Gate} (sound : gate.Sound) (taker : Nat) :
    (gate.leave taker).Sound := by
  rcases gate.leave_cases taker with ⟨held, after⟩ | ⟨_, after⟩
  · rw [after]
    exact (sound.unhold held).giveBack
  · rw [after]
    exact sound

/-- Whoever leaves holds no slot afterwards, and nobody else loses theirs. -/
theorem Balanced.holds_leave {gate : Gate} (sound : gate.Sound) (taker other : Nat) :
    (gate.leave taker).Holds other ↔ gate.Holds other ∧ other ≠ taker := by
  rcases gate.leave_cases taker with ⟨_, after⟩ | ⟨absent, after⟩
  · rw [after]
    simp only [Holds, held_giveBack, sound.held_nodup.mem_erase_iff]
    exact And.comm
  · rw [after]
    exact ⟨fun holds => ⟨holds, fun same => absent (same ▸ holds)⟩, And.left⟩

/-- Leaving ends nobody's wait. -/
theorem waits_leave (gate : Gate) (taker other : Nat) :
    (gate.leave taker).Waits other ↔ gate.Waits other := by
  rcases gate.leave_cases taker with ⟨_, after⟩ | ⟨_, after⟩
  · rw [after, waits_giveBack]
    rfl
  · rw [after]

theorem Balanced.close {gate : Gate} (sound : gate.Sound) : gate.close.Sound where
  conserved := sound.conserved
  queue_nodup := List.nodup_nil
  granted_nodup := sound.granted_nodup
  held_nodup := sound.held_nodup
  granted_not_queued := by simp [Gate.close]
  held_not_waiting := fun taker holds waits =>
    sound.held_not_waiting taker holds (waits.imp_left fun none => by simp [Gate.close] at none)
  full := by simp [Gate.close]
  shut := fun _ => rfl

/-- Closing begins nobody's wait. -/
theorem Waits.of_close {gate : Gate} {taker : Nat} (waits : gate.close.Waits taker) :
    gate.Waits taker :=
  waits.imp_left fun none => by simp [Gate.close] at none

/-! ## The number of slots never changes -/

@[simp]
theorem slots_enter (gate : Gate) (taker : Nat) : (gate.enter taker).2.slots = gate.slots := by
  rcases gate.enter_cases taker with ⟨_, same⟩ | ⟨_, _, same⟩ | ⟨_, _, same⟩ <;> rw [same] <;> rfl

@[simp]
theorem slots_claim (gate : Gate) (taker : Nat) : (gate.claim taker).2.slots = gate.slots := by
  rcases gate.claim_cases taker with
    ⟨_, _, after⟩ | ⟨_, _, after⟩ | ⟨_, _, after⟩ | ⟨_, _, after⟩
  · rw [after]
    exact slots_giveBack _
  · rw [after]
    rfl
  · rw [after]
  · rw [after]

@[simp]
theorem slots_abandon (gate : Gate) (taker : Nat) : (gate.abandon taker).slots = gate.slots := by
  rcases gate.abandon_cases taker with ⟨_, after⟩ | ⟨_, _, after⟩ | ⟨_, after⟩
  · rw [after]
    rfl
  · rw [after]
    exact slots_giveBack _
  · rw [after]

@[simp]
theorem slots_leave (gate : Gate) (taker : Nat) : (gate.leave taker).slots = gate.slots := by
  rcases gate.leave_cases taker with ⟨_, after⟩ | ⟨_, after⟩
  · rw [after]
    exact slots_giveBack _
  · rw [after]

/-! ## A closed gate

A gate stays closed whatever happens there, and at a closed gate the slots that are granted or held
only become fewer. -/

@[simp]
theorem closed_giveBack (gate : Gate) : gate.giveBack.closed = gate.closed := by
  unfold giveBack; split <;> rfl

@[simp]
theorem closed_enter (gate : Gate) (taker : Nat) :
    (gate.enter taker).2.closed = gate.closed := by
  rcases gate.enter_cases taker with ⟨_, same⟩ | ⟨_, _, same⟩ | ⟨_, _, same⟩ <;> rw [same]

@[simp]
theorem closed_claim (gate : Gate) (taker : Nat) :
    (gate.claim taker).2.closed = gate.closed := by
  rcases gate.claim_cases taker with
    ⟨_, _, after⟩ | ⟨_, _, after⟩ | ⟨_, _, after⟩ | ⟨_, _, after⟩ <;> simp [after]

@[simp]
theorem closed_abandon (gate : Gate) (taker : Nat) : (gate.abandon taker).closed = gate.closed := by
  rcases gate.abandon_cases taker with ⟨_, after⟩ | ⟨_, _, after⟩ | ⟨_, after⟩ <;> simp [after]

@[simp]
theorem closed_leave (gate : Gate) (taker : Nat) : (gate.leave taker).closed = gate.closed := by
  rcases gate.leave_cases taker with ⟨_, after⟩ | ⟨_, after⟩ <;> simp [after]

/-- Nobody is granted a slot or comes to hold one. -/
structure Subsides (before after : Gate) : Prop where
  granted : after.granted.Sublist before.granted
  held : after.held.Sublist before.held

namespace Subsides

theorem refl (gate : Gate) : Subsides gate gate := ⟨.refl _, .refl _⟩

theorem trans {first second third : Gate} (one : Subsides first second)
    (two : Subsides second third) : Subsides first third :=
  ⟨two.granted.trans one.granted, two.held.trans one.held⟩

/-- The slots in flight do not become more. -/
theorem inFlight_le {before after : Gate} (subsides : Subsides before after)
    (sound : before.Sound) (soundAfter : after.Sound) : after.inFlight ≤ before.inFlight := by
  rw [sound.inFlight_eq, soundAfter.inFlight_eq]
  exact Nat.add_le_add subsides.granted.length_le subsides.held.length_le

/-- At a gate where nobody waits a slot that comes back is free. -/
theorem giveBack {before gate : Gate} (subsides : Subsides before gate) (nobody : gate.queue = []) :
    Subsides before gate.giveBack := by
  unfold Gate.giveBack
  rw [nobody]
  exact ⟨subsides.granted, subsides.held⟩

end Subsides

variable {gate : Gate}

theorem enter_of_closed (closed : gate.closed = true) (taker : Nat) :
    (gate.enter taker).1 = .refused := by
  rcases gate.enter_cases taker with ⟨_, same⟩ | ⟨opened, _⟩ | ⟨opened, _⟩
  · rw [same]
  · cases opened.symm.trans closed
  · cases opened.symm.trans closed

theorem claim_of_closed (closed : gate.closed = true) (taker : Nat) :
    (gate.claim taker).1 = .refused := by
  rcases gate.claim_cases taker with
    ⟨_, _, after⟩ | ⟨_, opened, _⟩ | ⟨_, _, after⟩ | ⟨_, opened, _⟩
  · rw [after]
  · cases opened.symm.trans closed
  · rw [after]
  · cases opened.symm.trans closed

theorem subsides_enter (closed : gate.closed = true) (taker : Nat) :
    Subsides gate (gate.enter taker).2 := by
  rcases gate.enter_cases taker with ⟨_, same⟩ | ⟨opened, _⟩ | ⟨opened, _⟩
  · rw [same]
    exact .refl gate
  · cases opened.symm.trans closed
  · cases opened.symm.trans closed

theorem Balanced.subsides_claim (sound : gate.Sound) (closed : gate.closed = true) (taker : Nat) :
    Subsides gate (gate.claim taker).2 := by
  rcases gate.claim_cases taker with
    ⟨_, _, after⟩ | ⟨_, opened, _⟩ | ⟨_, _, after⟩ | ⟨_, opened, _⟩
  · rw [after]
    exact Subsides.giveBack ⟨List.erase_sublist, .refl _⟩ (sound.shut closed)
  · cases opened.symm.trans closed
  · rw [after]
    exact .refl gate
  · cases opened.symm.trans closed

theorem Balanced.subsides_abandon (sound : gate.Sound) (closed : gate.closed = true)
    (taker : Nat) : Subsides gate (gate.abandon taker) := by
  rcases gate.abandon_cases taker with ⟨_, after⟩ | ⟨_, _, after⟩ | ⟨_, after⟩
  · rw [after]
    exact ⟨.refl _, .refl _⟩
  · rw [after]
    exact Subsides.giveBack ⟨List.erase_sublist, .refl _⟩ (sound.shut closed)
  · rw [after]
    exact .refl gate

theorem Balanced.subsides_leave (sound : gate.Sound) (closed : gate.closed = true) (taker : Nat) :
    Subsides gate (gate.leave taker) := by
  rcases gate.leave_cases taker with ⟨_, after⟩ | ⟨_, after⟩
  · rw [after]
    exact Subsides.giveBack ⟨.refl _, List.erase_sublist⟩ (sound.shut closed)
  · rw [after]
    exact .refl gate

end Gate

end ResilientHttp
