import ResilientHttp.Proofs.Gate.Watched

/-!
# No slot is lost and none appears

Over every run of a gate the free slots and the slots that were granted and not given back are
together as many as the gate was made with, so that as many are in flight as were granted and not
given back. At an open gate nobody waits while a slot is free.

A closed gate stays closed. From then on nobody waits, nobody is granted a slot, and whoever looks is
refused; each slot that is given back lowers the number in flight, until none is left
(`slots_conserved`).
-/

set_option autoImplicit false

namespace ResilientHttp

namespace Gate

namespace Watched

variable {watched : Watched}

/-! ## A closed gate over a run -/

theorem closed_act (closed : watched.gate.closed = true) (act : Act) :
    (watched.act act).gate.closed = true := by
  cases act with
  | enter taker => simp only [Watched.act, Gate.act]; split <;> simpa using closed
  | claim taker => simpa [Watched.act, Gate.act] using closed
  | abandon taker => simpa [Watched.act, Gate.act] using closed
  | leave taker => simpa [Watched.act, Gate.act] using closed
  | close => rfl

theorem closed_run (closed : watched.gate.closed = true) (acts : List Act) :
    (watched.run acts).gate.closed = true := by
  induction acts generalizing watched with
  | nil => exact closed
  | cons act rest ih => exact ih (closed_act closed act)

namespace Agrees

variable {taker : Nat}

/-- No act at a closed gate gives anybody a slot. -/
theorem subsides_act (agrees : watched.Agrees 0) (closed : watched.gate.closed = true) (act : Act) :
    Subsides watched.gate (watched.act act).gate := by
  cases act with
  | enter taker =>
      simp only [Watched.act, Gate.act]
      split
      · exact .refl _
      · exact subsides_enter closed taker
  | claim taker => exact agrees.books.subsides_claim closed taker
  | abandon taker => exact agrees.books.subsides_abandon closed taker
  | leave taker => exact agrees.books.subsides_leave closed taker
  | close => exact ⟨.refl _, .refl _⟩

theorem subsides_run (agrees : watched.Agrees 0) (closed : watched.gate.closed = true)
    (acts : List Act) : Subsides watched.gate (watched.run acts).gate := by
  induction acts generalizing watched with
  | nil => exact .refl _
  | cons act rest ih =>
      exact (agrees.subsides_act closed act).trans (ih (agrees.act act) (closed_act closed act))

/-- At a closed gate a slot that comes back passes on to nobody. -/
theorem succession_of_closed (agrees : watched.Agrees 0) (closed : watched.gate.closed = true) :
    watched.succession = [] := by
  simp [succession, agrees.books.shut closed]

/-- No act at a closed gate grants or admits. -/
theorem events_of_closed (agrees : watched.Agrees 0) (closed : watched.gate.closed = true)
    {act : Act} {event : Event} (member : event ∈ watched.events act) (taker : Nat) :
    event ≠ .granted taker ∧ event ≠ .admitted taker := by
  have nobody := agrees.succession_of_closed closed
  cases act with
  | enter other =>
      simp only [events, enter_of_closed closed other] at member
      split at member <;> simp_all
      rcases member with rfl | rfl <;> simp
  | claim other =>
      simp only [events, claim_of_closed closed other] at member
      split at member <;> simp_all
  | abandon other =>
      simp only [events, nobody, ite_self] at member
      split at member <;> simp_all
  | leave other =>
      simp only [events, nobody] at member
      split at member <;> simp_all
  | close => cases member

theorem chronicle_of_closed (agrees : watched.Agrees 0) (closed : watched.gate.closed = true)
    {acts : List Act} {event : Event} (member : event ∈ watched.chronicle acts) (taker : Nat) :
    event ≠ .granted taker ∧ event ≠ .admitted taker := by
  induction acts generalizing watched with
  | nil => cases member
  | cons act rest ih =>
      rcases List.mem_append.1 member with now | later
      · exact agrees.events_of_closed closed now taker
      · exact ih (agrees.act act) (closed_act closed act) later

/-- Whoever gave back a slot after the gate was closed holds none from then on. -/
theorem not_held_of_leave (agrees : watched.Agrees 0) (closed : watched.gate.closed = true)
    {acts : List Act} (left : .leave taker ∈ acts) : taker ∉ (watched.run acts).gate.held := by
  obtain ⟨front, back, rfl⟩ := List.append_of_mem left
  rw [run_append]
  have before := agrees.run front
  have shut := closed_run closed front
  have gone : ¬ ((watched.run front).gate.leave taker).Holds taker := fun holds =>
    (before.books.holds_leave taker taker |>.1 holds).2 rfl
  exact fun held =>
    gone (((before.act _).subsides_run (closed_act shut (.leave taker)) back).held.subset held)

/-- Whoever looked at a grant, or walked away from it, after the gate was closed has none from then
on. -/
theorem not_granted_of_look (agrees : watched.Agrees 0) (closed : watched.gate.closed = true)
    {acts : List Act} (looked : .claim taker ∈ acts ∨ .abandon taker ∈ acts) :
    taker ∉ (watched.run acts).gate.granted := by
  obtain ⟨act, present, ends⟩ : ∃ act ∈ acts, act = .claim taker ∨ act = .abandon taker :=
    looked.elim (fun claims => ⟨_, claims, .inl rfl⟩) fun leaves => ⟨_, leaves, .inr rfl⟩
  obtain ⟨front, back, rfl⟩ := List.append_of_mem present
  rw [run_append]
  have before := agrees.run front
  have shut := closed_run closed front
  have gone : taker ∉ ((watched.run front).act act).gate.granted := by
    intro granted
    rcases ends with rfl | rfl
    · have waits := (before.books.waits_claim taker taker |>.1 (.inr granted)).2 rfl
      cases (claim_of_closed shut taker).symm.trans waits
    · exact (before.books.waits_abandon taker taker |>.1 (.inr granted)).2 rfl
  exact fun granted =>
    gone (((before.act _).subsides_run (closed_act shut act) back).granted.subset granted)

/-- Once everybody has looked and has given back what they held, no slot of a closed gate is in
flight. -/
theorem inFlight_of_emptied (agrees : watched.Agrees 0) (closed : watched.gate.closed = true)
    {acts : List Act} (leaves : ∀ taker ∈ watched.gate.held, .leave taker ∈ acts)
    (looks : ∀ taker ∈ watched.gate.granted, .claim taker ∈ acts ∨ .abandon taker ∈ acts) :
    (watched.run acts).gate.inFlight = 0 := by
  have subsides := agrees.subsides_run closed acts
  have granted : (watched.run acts).gate.granted = [] :=
    List.eq_nil_iff_forall_not_mem.2 fun taker member =>
      agrees.not_granted_of_look closed (looks taker (subsides.granted.subset member)) member
  have held : (watched.run acts).gate.held = [] :=
    List.eq_nil_iff_forall_not_mem.2 fun taker member =>
      agrees.not_held_of_leave closed (leaves taker (subsides.held.subset member)) member
  rw [(agrees.run acts).books.inFlight_eq, granted, held]
  rfl

/-! ## The books and the log -/

/-- The slots that were granted and not given back are those that were granted and not seen, and
those that are held. -/
theorem unreleased_perm (agrees : watched.Agrees 0) :
    (unreleased watched.log).Perm (watched.gate.granted ++ watched.gate.held) := by
  have distinct : (watched.gate.granted ++ watched.gate.held).Nodup := by
    refine List.nodup_append.2 ⟨agrees.books.granted_nodup, agrees.books.held_nodup, ?_⟩
    rintro taker granted _ held rfl
    exact agrees.books.held_not_waiting taker held (.inr granted)
  refine (List.perm_ext_iff_of_nodup agrees.unreleased_nodup distinct).2 fun taker => ?_
  rw [agrees.unreleased_iff, List.mem_append]

theorem free_add_unreleased (agrees : watched.Agrees 0) :
    watched.gate.free + (unreleased watched.log).length = watched.gate.slots := by
  have conserved := agrees.books.conserved
  rw [agrees.unreleased_perm.length_eq, List.length_append]
  omega

end Agrees

end Watched

/-- Whoever gives back a slot of a closed gate lowers the number in flight by one. -/
theorem Balanced.inFlight_leave {gate : Gate} (sound : gate.Sound) (closed : gate.closed = true)
    {taker : Nat} (held : taker ∈ gate.held) :
    (gate.leave taker).inFlight + 1 = gate.inFlight := by
  have after : gate.leave taker =
      { gate with held := gate.held.erase taker, free := gate.free + 1 } := by
    have nobody := sound.shut closed
    simp [Gate.leave, held, Gate.giveBack, nobody]
  have positive := List.length_pos_of_mem held
  have shorter := List.length_erase_of_mem held
  rw [(sound.leave taker).inFlight_eq, sound.inFlight_eq, after]
  simp only [shorter]
  omega

theorem slots_run (gate : Gate) (acts : List Act) : (gate.run acts).slots = gate.slots := by
  induction acts generalizing gate with
  | nil => rfl
  | cons act rest ih =>
      refine (ih (gate.act act)).trans ?_
      cases act with
      | enter taker => simp only [Gate.act]; split <;> simp
      | claim taker => exact slots_claim gate taker
      | abandon taker => exact slots_abandon gate taker
      | leave taker => exact slots_leave gate taker
      | close => rfl

/-- **Every slot is accounted for.** Whatever happens at a gate, its free slots and the slots that
were granted and not given back, whether their owners know of them or not, are together as many as
the gate was made with. The number in flight is the number of those that were not given back, and at
an open gate somebody is left waiting only when all slots are in flight.

A gate that is closed stays closed. Nobody waits there, nobody is granted a slot or admitted, and
whoever comes or looks is refused. Everybody who gives back a slot lowers the number in flight by
one, and when all slots that were held are given back, and those who were granted one have looked or
walked away, none is in flight. -/
theorem slots_conserved (capacity : Option Nat) (acts : List Act) :
    let watched := (Watched.new capacity).run acts
    let gate := watched.gate
    gate = (Gate.new capacity).run acts ∧
    gate.free + (unreleased watched.log).length = slotsOf capacity ∧
    (unreleased watched.log).Perm (gate.granted ++ gate.held) ∧
    gate.inFlight = (unreleased watched.log).length ∧
    gate.inFlight ≤ slotsOf capacity ∧
    (gate.closed = false →
      gate.queue = ungranted watched.log ∧
      (ungranted watched.log ≠ [] → gate.inFlight = slotsOf capacity)) ∧
    (gate.closed = true →
      (∀ taker ∈ gate.held, (gate.leave taker).inFlight + 1 = gate.inFlight) ∧
      ∀ later,
        let after := (watched.run later).gate
        after.closed = true ∧
        after.queue = [] ∧
        (∀ taker, (after.enter taker).1 = .refused ∧ (after.claim taker).1 = .refused) ∧
        (∀ event ∈ watched.chronicle later, ∀ taker,
          event ≠ .granted taker ∧ event ≠ .admitted taker) ∧
        after.inFlight ≤ gate.inFlight ∧
        ((∀ taker ∈ gate.held, .leave taker ∈ later) →
          (∀ taker ∈ gate.granted, .claim taker ∈ later ∨ .abandon taker ∈ later) →
          after.inFlight = 0)) := by
  intro watched gate
  have agrees : watched.Agrees 0 := (Watched.agrees_new capacity).run acts
  have same : gate = (Gate.new capacity).run acts := Watched.gate_run _ acts
  have slots : gate.slots = slotsOf capacity := by
    rw [same]
    exact slots_run _ acts
  have conserved := agrees.free_add_unreleased
  have inFlight : gate.inFlight = (unreleased watched.log).length := by
    rw [agrees.books.inFlight_eq, agrees.unreleased_perm.length_eq, List.length_append]
  refine ⟨same, slots ▸ conserved, agrees.unreleased_perm, inFlight, slots ▸ gate.inFlight_le_slots,
    ?_, ?_⟩
  · intro opened
    have order := agrees.queue_eq opened
    refine ⟨order, fun waiting => ?_⟩
    have noneFree : gate.free = 0 := agrees.books.full (by rwa [order])
    rw [← slots, inFlight, ← conserved, noneFree, Nat.zero_add]
  · intro closed
    refine ⟨fun taker held => agrees.books.inFlight_leave closed held, fun later => ?_⟩
    have shut := Watched.closed_run closed later
    have afterwards := agrees.run later
    exact ⟨shut, afterwards.books.shut shut,
      fun taker => ⟨enter_of_closed shut taker, claim_of_closed shut taker⟩,
      fun event member => agrees.chronicle_of_closed closed member,
      (agrees.subsides_run closed later).inFlight_le agrees.books afterwards.books,
      agrees.inFlight_of_emptied closed⟩

/-- A run at a gate with two slots: four come, the first gives back, so that the third has a grant
that they have not seen while the fourth still waits. -/
def grantedRun : List Act := [.enter 0, .enter 1, .enter 2, .enter 3, .leave 0]

/-- The gate of that run with both slots in flight, and the same gate closed and then emptied: the
third looks and is refused, and the second gives back. -/
theorem slots_conserved_grantedRun :
    ((Gate.new (some 2)).run grantedRun).inFlight = 2 ∧
    ((Gate.new (some 2)).run (grantedRun ++ [.close])).inFlight = 2 ∧
    (((Watched.new (some 2)).run (grantedRun ++ [.close])).run [.claim 2, .leave 1]).gate.inFlight =
      0 := by
  obtain ⟨same, _, _, _, _, opened, _⟩ := slots_conserved (some 2) grantedRun
  obtain ⟨sameClosed, _, _, inFlight, _, _, closed⟩ :=
    slots_conserved (some 2) (grantedRun ++ [.close])
  refine ⟨same ▸ (opened (by decide +kernel)).2 (by decide +kernel),
    sameClosed ▸ inFlight.trans (by decide +kernel), ?_⟩
  exact ((closed (by decide +kernel)).2 [.claim 2, .leave 1]).2.2.2.2.2 (by decide +kernel)
    (by decide +kernel)

end Gate

end ResilientHttp
