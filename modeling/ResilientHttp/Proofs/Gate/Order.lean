import ResilientHttp.Proofs.Gate.Watched

/-!
# The order of admission

That slots are granted in the order of arrival, and that nobody is answered twice, follows from the
log of a run being lawful. What is left to show is what single acts mean: who comes while others wait
stands behind them, and a slot that is given back goes to the first who waits, and to nobody if
nobody waits or the gate is closed.

Whoever comes and walks away again without having been granted a slot leaves no trace. To show it
two runs are set side by side (`Shadow`): in one that taker acts with the others, in the other only
the others act. The gates differ in nothing but the place of that taker in the queue, and once that
taker has walked away they do not differ at all (`admitted_in_order`).
-/

set_option autoImplicit false

namespace ResilientHttp

namespace Gate

/-- Who acts. Closing the gate is nobody's act. -/
def Act.taker? : Act → Option Nat
  | .enter taker => some taker
  | .claim taker => some taker
  | .abandon taker => some taker
  | .leave taker => some taker
  | .close => none

/-- A run without the acts of one taker. -/
def without (taker : Nat) (acts : List Act) : List Act :=
  acts.filter fun act => act.taker? != some taker

/-- What a log says of everybody but one taker. -/
def ofOthers (taker : Nat) (log : List Event) : List Event :=
  log.filter fun event => event.taker != taker

/-! ## A gate without one taker in its queue -/

/-- The gate as it is for those who do not see one taker in the queue. -/
def hide (taker : Nat) (gate : Gate) : Gate :=
  { gate with queue := gate.queue.filter (· != taker) }

section Hide

variable {gate : Gate} {taker other : Nat}

theorem hide_of_not_mem (unqueued : taker ∉ gate.queue) : gate.hide taker = gate := by
  have same : gate.queue.filter (· != taker) = gate.queue :=
    List.filter_eq_self.2 fun _ member => bne_iff_ne.2 fun same => unqueued (same ▸ member)
  rw [hide, same]

theorem hide_isPresent (gate : Gate) (differ : other ≠ taker) :
    (gate.hide taker).isPresent other = gate.isPresent other := by
  simp [isPresent, hide, differ]

/-- A slot that comes back passes on to the same taker, unless it is the hidden one. -/
theorem hide_giveBack (gate : Gate) (passes : gate.queue.head? ≠ some taker) :
    (gate.hide taker).giveBack = gate.giveBack.hide taker := by
  cases queue : gate.queue with
  | nil => simp [hide, giveBack, queue]
  | cons first rest =>
      have differ : first ≠ taker := by simpa [queue] using passes
      simp [hide, giveBack, queue, differ]

theorem hide_enter (gate : Gate) (differ : other ≠ taker) :
    (gate.hide taker).enter other = (gate.enter other).map id (hide taker) := by
  cases closed : gate.closed with
  | true => simp [enter, hide, closed]
  | false => by_cases free : 0 < gate.free <;> simp [enter, hide, closed, free, differ]

theorem hide_claim (sound : gate.Sound) (taker other : Nat) :
    (gate.hide taker).claim other = (gate.claim other).map id (hide taker) := by
  cases closed : gate.closed with
  | true =>
      have nobody := sound.shut closed
      by_cases granted : other ∈ gate.granted <;>
        simp [claim, hide, giveBack, closed, granted, nobody]
  | false => by_cases granted : other ∈ gate.granted <;> simp [claim, hide, closed, granted]

theorem hide_abandon (sound : gate.Sound) (differ : other ≠ taker)
    (passes : other ∈ gate.granted → gate.queue.head? ≠ some taker) :
    (gate.hide taker).abandon other = (gate.abandon other).hide taker := by
  rcases gate.abandon_cases other with
    ⟨queued, after⟩ | ⟨unqueued, granted, after⟩ | ⟨absent, after⟩
  · have nodup := sound.queue_nodup
    have without : (gate.queue.filter (· != taker)).erase other =
        (gate.queue.erase other).filter (· != taker) := by
      rw [(nodup.filter _).erase_eq_filter, nodup.erase_eq_filter, List.filter_filter,
        List.filter_filter]
      exact List.filter_congr fun _ _ => Bool.and_comm ..
    rw [after]
    simp [abandon, hide, queued, differ, without]
  · have passing := hide_giveBack { gate with granted := gate.granted.erase other } (passes granted)
    rw [after, ← passing]
    simp [abandon, hide, unqueued, granted]
  · obtain ⟨unqueued, ungranted⟩ := not_or.1 absent
    rw [after]
    simp [abandon, hide, unqueued, ungranted]

theorem hide_leave (passes : other ∈ gate.held → gate.queue.head? ≠ some taker) :
    (gate.hide taker).leave other = (gate.leave other).hide taker := by
  rcases gate.leave_cases other with ⟨held, after⟩ | ⟨absent, after⟩
  · have passing := hide_giveBack { gate with held := gate.held.erase other } (passes held)
    rw [after, ← passing]
    simp [leave, hide, held]
  · rw [after]
    simp [leave, hide, absent]

end Hide

section Rolls

variable {joins quits : Event → Option Nat}

/-- Two rolls that agree on somebody go on doing so when the same happens to both. -/
theorem mem_roll_congr {taker : Nat} {one two : List Event}
    (same : taker ∈ roll joins quits one ↔ taker ∈ roll joins quits two) (more : List Event) :
    taker ∈ roll joins quits (one ++ more) ↔ taker ∈ roll joins quits (two ++ more) := by
  induction more using List.reverseRecOn with
  | nil => simpa using same
  | append_singleton front last ih =>
      simp only [← List.append_assoc, mem_roll_concat, ih]

/-- What happens to others changes nothing for somebody. -/
theorem mem_unanswered_append {taker : Nat} (log : List Event) {more : List Event}
    (others : ∀ event ∈ more, event.taker ≠ taker) :
    taker ∈ unanswered (log ++ more) ↔ taker ∈ unanswered log := by
  constructor
  · intro member
    refine (mem_roll_append member).resolve_right fun joined => ?_
    exact others _ (Event.mem_of_begins? joined) rfl
  · intro member
    refine mem_roll_append_of_mem member fun event present concludes => others event present ?_
    cases event <;> simp_all [Event.concludes?, Event.taker]

end Rolls

namespace Watched

variable {watched whole part : Watched} {taker : Nat}

/-! ## What single acts mean -/

/-- What an act means concerns who acts, and otherwise is a grant to another. -/
theorem mem_events {act : Act} {event : Event} (member : event ∈ watched.events act) :
    act.taker? = some event.taker ∨ event = .granted event.taker := by
  have passes : event ∈ watched.succession → event = .granted event.taker := by
    intro next
    obtain ⟨first, _, rfl⟩ : ∃ first, watched.gate.queue.head? = some first ∧
        Event.granted first = event := by simpa [succession] using next
    rfl
  cases act with
  | enter taker =>
      refine .inl ?_
      simp only [events] at member
      repeat' split at member
      all_goals grind [Act.taker?, Event.taker]
  | claim taker =>
      refine .inl ?_
      simp only [events] at member
      repeat' split at member
      all_goals grind [Act.taker?, Event.taker]
  | abandon taker => grind [events, Act.taker?, Event.taker]
  | leave taker => grind [events, Act.taker?, Event.taker]
  | close => cases member

/-- Whoever comes while others wait stands behind them. -/
theorem Agrees.enter_behind (agrees : watched.Agrees 0) (waiting : watched.gate.queue ≠ [])
    (absent : watched.gate.isPresent taker = false) (silent : watched.asks taker = false) :
    watched.events (.enter taker) = [.began taker] ∧
    (watched.act (.enter taker)).gate =
      { watched.gate with queue := watched.gate.queue ++ [taker] } := by
  have noneFree := agrees.books.full waiting
  rcases watched.gate.enter_cases taker with ⟨closed, _⟩ | ⟨_, free, _⟩ | ⟨_, _, waits⟩
  · exact absurd (agrees.books.shut closed) waiting
  · omega
  · simp [events, Watched.act, Gate.act, absent, silent, waits]

/-- Whoever gives back a slot passes it on to the first who waits. -/
theorem Agrees.leave_passes (agrees : watched.Agrees 0) (held : taker ∈ watched.gate.held) :
    watched.events (.leave taker) =
      .left taker ::
        if watched.gate.closed then []
        else ((ungranted watched.log).head?.map .granted).toList := by
  cases closed : watched.gate.closed with
  | true => simp [events, held, succession, agrees.books.shut closed]
  | false => simp [events, held, succession, agrees.queue_eq closed]

/-- Whoever walks away from a grant passes it on to the first who waits. -/
theorem Agrees.abandon_passes (agrees : watched.Agrees 0)
    (granted : taker ∈ watched.gate.granted) :
    watched.events (.abandon taker) =
      .withdrew taker ::
        if watched.gate.closed then []
        else ((ungranted watched.log).head?.map .granted).toList := by
  have asks := agrees.asks_of_waits taker (.inr granted)
  cases closed : watched.gate.closed with
  | true => simp [events, Watched.asks, asks, granted, succession, agrees.books.shut closed]
  | false => simp [events, Watched.asks, asks, granted, succession, agrees.queue_eq closed]

/-- The queue of those who stay is in the same order when somebody who waits walks away. -/
theorem Agrees.abandon_leaves (agrees : watched.Agrees 0) (queued : taker ∈ watched.gate.queue) :
    watched.events (.abandon taker) = [.withdrew taker] ∧
    (watched.act (.abandon taker)).gate =
      { watched.gate with queue := watched.gate.queue.filter (· != taker) } := by
  have asks := agrees.asks_of_waits taker (.inl queued)
  have ungranted : taker ∉ watched.gate.granted := fun granted =>
    agrees.books.granted_not_queued taker granted queued
  refine ⟨by simp [events, Watched.asks, asks, ungranted], ?_⟩
  rcases watched.gate.abandon_cases taker with ⟨_, after⟩ | ⟨unqueued, _⟩ | ⟨absent, _⟩
  · rw [← agrees.books.queue_nodup.erase_eq_filter]
    exact after
  · exact absurd queued unqueued
  · exact absurd (.inl queued) absent

/-! ## Two runs side by side -/

/-- Two gates at which the same will happen: they are the same, and the same takers want a slot. -/
structure Alike (one two : Watched) : Prop where
  gate : one.gate = two.gate
  asks : ∀ taker, taker ∈ unanswered one.log ↔ taker ∈ unanswered two.log

namespace Alike

variable {one two : Watched}

theorem events (alike : Alike one two) (act : Act) : one.events act = two.events act := by
  have asks : one.asks = two.asks := by
    funext taker
    simp [Watched.asks, alike.asks]
  cases act <;> simp only [Watched.events, succession, alike.gate, asks]

theorem act (alike : Alike one two) (act : Act) : Alike (one.act act) (two.act act) where
  gate := by simp only [Watched.act, alike.gate]
  asks := by
    intro taker
    simp only [Watched.act, alike.events act]
    exact mem_roll_congr (alike.asks taker) _

/-- The same happens at both over every run. -/
theorem run (alike : Alike one two) (acts : List Act) :
    one.chronicle acts = two.chronicle acts ∧ (one.run acts).gate = (two.run acts).gate := by
  induction acts generalizing one two with
  | nil => exact ⟨rfl, alike.gate⟩
  | cons act rest ih =>
      obtain ⟨chronicle, gate⟩ := ih (alike.act act)
      exact ⟨by simp only [Watched.chronicle, alike.events act, chronicle], gate⟩

end Alike

/-- In the second run one taker does not come. In the first that taker has no slot. -/
structure Shadow (taker : Nat) (whole part : Watched) : Prop where
  gate : part.gate = whole.gate.hide taker
  slotless : taker ∉ unreleased whole.log
  /-- The same others want a slot. -/
  asks : ∀ other, other ≠ taker → (other ∈ unanswered whole.log ↔ other ∈ unanswered part.log)
  silent : taker ∉ unanswered part.log

namespace Shadow

/-- Whoever had no slot and is granted none has none. -/
theorem slotless_act (shadow : Shadow taker whole part) {act : Act}
    (ungranted : .granted taker ∉ whole.events act) : taker ∉ unreleased (whole.act act).log := by
  intro member
  obtain ⟨event, present, grants⟩ := (mem_roll_append member).resolve_left shadow.slotless
  cases event with
  | granted other => exact ungranted (Option.some.inj grants ▸ present)
  | _ => cases grants

/-- A slot that comes back passes on in both runs alike, unless it passes on to the taker. -/
theorem succession_eq (shadow : Shadow taker whole part)
    (ungranted : .granted taker ∉ whole.succession) :
    whole.gate.queue.head? ≠ some taker ∧ whole.succession = part.succession := by
  simp only [succession, shadow.gate, hide] at ungranted ⊢
  cases queue : whole.gate.queue with
  | nil => simp
  | cons first rest =>
      have differ : first ≠ taker := by simpa [queue, eq_comm] using ungranted
      simp [differ]

theorem asks_eq (shadow : Shadow taker whole part) {other : Nat} (differ : other ≠ taker) :
    whole.asks other = part.asks other := by
  simp [Watched.asks, shadow.asks other differ]

/-- An act of somebody else means the same in both runs. -/
theorem events_of_other (agrees : whole.Agrees 0) (shadow : Shadow taker whole part) {act : Act}
    (other : act.taker? ≠ some taker) (ungranted : .granted taker ∉ whole.events act) :
    whole.events act = part.events act := by
  cases act with
  | enter newcomer =>
      have differ : newcomer ≠ taker := by simpa [Act.taker?] using other
      have present := hide_isPresent whole.gate differ
      have answer := congrArg Prod.fst (hide_enter whole.gate differ)
      have asks := shadow.asks_eq differ
      simp only [events, asks, shadow.gate, present, answer, Prod.map_fst, id]
  | claim claimant =>
      have differ : claimant ≠ taker := by simpa [Act.taker?] using other
      have answer := congrArg Prod.fst (hide_claim agrees.books taker claimant)
      have asks := shadow.asks_eq differ
      simp only [events, asks, shadow.gate, answer, Prod.map_fst, id]
  | abandon leaver =>
      have differ : leaver ≠ taker := by simpa [Act.taker?] using other
      have granted : part.gate.granted = whole.gate.granted := by rw [shadow.gate]; rfl
      simp only [events, shadow.asks_eq differ, granted] at ungranted ⊢
      split
      · split
        · have passes : .granted taker ∉ whole.succession := by simp_all
          rw [(shadow.succession_eq passes).2]
        · rfl
      · rfl
  | leave holder =>
      have held : part.gate.held = whole.gate.held := by rw [shadow.gate]; rfl
      simp only [events, held] at ungranted ⊢
      split
      · have passes : .granted taker ∉ whole.succession := by simp_all
        rw [(shadow.succession_eq passes).2]
      · rfl
  | close => rfl

/-- The gates of both runs stay alike when somebody else acts. -/
theorem gate_of_other (agrees : whole.Agrees 0) (shadow : Shadow taker whole part) {act : Act}
    (other : act.taker? ≠ some taker) (ungranted : .granted taker ∉ whole.events act) :
    part.gate.act act = (whole.gate.act act).hide taker := by
  rw [shadow.gate]
  cases act with
  | enter newcomer =>
      have differ : newcomer ≠ taker := by simpa [Act.taker?] using other
      simp only [Gate.act, hide_isPresent whole.gate differ, hide_enter whole.gate differ]
      split <;> rfl
  | claim claimant => simp only [Gate.act, hide_claim agrees.books taker claimant]; rfl
  | abandon leaver =>
      have differ : leaver ≠ taker := by simpa [Act.taker?] using other
      refine hide_abandon agrees.books differ fun granted => (shadow.succession_eq ?_).1
      have asks := agrees.asks_of_waits leaver (.inr granted)
      simpa [events, Watched.asks, asks, granted] using ungranted
  | leave holder =>
      refine hide_leave fun held => (shadow.succession_eq ?_).1
      simpa [events, held] using ungranted
  | close => rfl

/-- What the taker does changes nothing but their place in the queue, and concerns nobody else. -/
theorem act_of_taker (agrees : whole.Agrees 0) (shadow : Shadow taker whole part) {act : Act}
    (own : act.taker? = some taker) (ungranted : .granted taker ∉ whole.events act) :
    (whole.gate.act act).hide taker = whole.gate.hide taker ∧
    ∀ event ∈ whole.events act, event.taker = taker := by
  have noGrant : taker ∉ whole.gate.granted := fun granted =>
    shadow.slotless ((agrees.unreleased_iff taker).2 (.inl granted))
  have notHeld : taker ∉ whole.gate.held := fun held =>
    shadow.slotless ((agrees.unreleased_iff taker).2 (.inr held))
  cases act with
  | enter newcomer =>
      obtain rfl : newcomer = taker := Option.some.inj own
      refine ⟨?_, fun event member => ?_⟩
      · simp only [Gate.act]
        split
        · rfl
        · rename_i absent
          rcases whole.gate.enter_cases newcomer with
            ⟨_, same⟩ | ⟨opened, _, admitted⟩ | ⟨_, _, waits⟩
          · rw [same]
          · -- Whoever is admitted at once did not want a slot before, so the log tells of a grant.
            have silent : newcomer ∉ unanswered whole.log := fun asks => by
              have waits := agrees.waits_of_asks opened newcomer asks
              simp_all [isPresent, Waits]
            simp [events, absent, Watched.asks, silent, admitted] at ungranted
          · rw [waits]
            simp [hide]
      · rcases mem_events member with acts | grants
        · exact (Option.some.inj acts).symm
        · by_contra differ
          simp only [events] at member
          repeat' split at member
          all_goals grind [Event.taker]
  | claim claimant =>
      obtain rfl : claimant = taker := Option.some.inj own
      refine ⟨?_, fun event member => ?_⟩
      · rcases whole.gate.claim_cases claimant with
          ⟨granted, _⟩ | ⟨granted, _⟩ | ⟨_, _, same⟩ | ⟨_, _, same⟩
        · exact absurd granted noGrant
        · exact absurd granted noGrant
        · simp only [Gate.act, same]
        · simp only [Gate.act, same]
      · simp only [events] at member
        repeat' split at member
        all_goals grind [Event.taker]
  | abandon leaver =>
      obtain rfl : leaver = taker := Option.some.inj own
      refine ⟨?_, fun event member => ?_⟩
      · rcases whole.gate.abandon_cases leaver with ⟨_, after⟩ | ⟨_, granted, _⟩ | ⟨_, same⟩
        · simp only [Gate.act, after, hide, agrees.books.queue_nodup.erase_eq_filter,
            List.filter_filter, Bool.and_self]
        · exact absurd granted noGrant
        · simp only [Gate.act, same]
      · have only : whole.events (.abandon leaver) = [.withdrew leaver] ∨
            whole.events (.abandon leaver) = [] := by
          by_cases asks : whole.asks leaver <;> simp [events, asks, noGrant]
        grind [Event.taker]
  | leave holder =>
      obtain rfl : holder = taker := Option.some.inj own
      simp [Gate.act, Gate.leave, events, notHeld]
  | close => cases own

theorem act_other (agrees : whole.Agrees 0) (shadow : Shadow taker whole part) {act : Act}
    (other : act.taker? ≠ some taker) (ungranted : .granted taker ∉ whole.events act) :
    Shadow taker (whole.act act) (part.act act) where
  gate := shadow.gate_of_other agrees other ungranted
  slotless := shadow.slotless_act ungranted
  asks := by
    intro somebody differ
    simp only [Watched.act, ← shadow.events_of_other agrees other ungranted]
    exact mem_roll_congr (shadow.asks somebody differ) _
  silent := by
    intro asks
    have joined := (mem_roll_append asks).resolve_left shadow.silent
    rcases mem_events (Event.mem_of_begins? joined) with acts | grants
    · exact other acts
    · cases grants

theorem act_own (agrees : whole.Agrees 0) (shadow : Shadow taker whole part) {act : Act}
    (own : act.taker? = some taker) (ungranted : .granted taker ∉ whole.events act) :
    Shadow taker (whole.act act) part where
  gate := shadow.gate.trans (shadow.act_of_taker agrees own ungranted).1.symm
  slotless := shadow.slotless_act ungranted
  asks := by
    intro somebody differ
    refine (mem_unanswered_append whole.log fun event member same => differ ?_).trans
      (shadow.asks somebody differ)
    exact same.symm.trans ((shadow.act_of_taker agrees own ungranted).2 event member)
  silent := shadow.silent

/-- **A taker who is granted no slot changes nothing for the others.** -/
theorem run (agrees : whole.Agrees 0) (shadow : Shadow taker whole part) {acts : List Act}
    (ungranted : .granted taker ∉ whole.chronicle acts) :
    Shadow taker (whole.run acts) (part.run (without taker acts)) ∧
    ofOthers taker (whole.chronicle acts) = part.chronicle (without taker acts) := by
  induction acts generalizing whole part with
  | nil => exact ⟨shadow, rfl⟩
  | cons act rest ih =>
      rw [chronicle, List.mem_append, not_or] at ungranted
      obtain ⟨now, later⟩ := ungranted
      by_cases own : act.taker? = some taker
      · have silent : ofOthers taker (whole.events act) = [] := by
          refine List.filter_eq_nil_iff.2 fun event member => ?_
          simp [(shadow.act_of_taker agrees own now).2 event member]
        have shorter : without taker (act :: rest) = without taker rest := by simp [without, own]
        obtain ⟨after, same⟩ := ih (agrees.act act) (shadow.act_own agrees own now) later
        rw [shorter]
        refine ⟨after, ?_⟩
        rw [chronicle, ofOthers, List.filter_append, ← same]
        simp only [ofOthers] at silent ⊢
        rw [silent, List.nil_append]
      · have loud : ofOthers taker (whole.events act) = part.events act := by
          rw [← shadow.events_of_other agrees own now]
          refine List.filter_eq_self.2 fun event member => bne_iff_ne.2 fun same => ?_
          rcases mem_events member with acts | grants
          · exact own (same ▸ acts)
          · exact now (same ▸ grants ▸ member)
        have longer : without taker (act :: rest) = act :: without taker rest := by
          simp [without, own]
        obtain ⟨after, same⟩ := ih (agrees.act act) (shadow.act_other agrees own now) later
        rw [longer]
        refine ⟨after, ?_⟩
        rw [chronicle, chronicle, ofOthers, List.filter_append, ← same]
        exact congrArg (· ++ ofOthers taker _) loud

end Shadow

/-- Whoever walked away wants no slot. -/
theorem silent_of_abandon (watched : Watched) (taker : Nat) :
    taker ∉ unanswered (watched.act (.abandon taker)).log := by
  intro asks
  simp only [Watched.act, events] at asks
  split at asks
  · obtain ⟨again, member, begins⟩ := joined_since asks rfl rfl
    split at member
    · obtain ⟨first, _, rfl⟩ : ∃ first, watched.gate.queue.head? = some first ∧
          Event.granted first = again := by simpa [succession] using member
      cases begins
    · cases member
  · simp_all [Watched.asks]

/-- Whoever comes and walks away without a slot leaves the gate as if they had not come. -/
theorem Agrees.forgets (agrees : watched.Agrees 0) (silent : taker ∉ unanswered watched.log)
    (unheld : taker ∉ watched.gate.held) {acts : List Act}
    (ungranted : .granted taker ∉ watched.chronicle (acts ++ [.abandon taker])) :
    ofOthers taker (watched.chronicle (acts ++ [.abandon taker])) =
      watched.chronicle (without taker acts) ∧
    Alike (watched.run (acts ++ [.abandon taker])) (watched.run (without taker acts)) := by
  have absent := agrees.not_waits silent
  have shadow : Shadow taker watched watched :=
    { gate := (hide_of_not_mem fun queued => absent (.inl queued)).symm
      slotless := fun has => ((agrees.unreleased_iff taker).1 has).elim
        (fun granted => absent (.inr granted)) unheld
      asks := fun _ _ => Iff.rfl
      silent }
  have shorter : without taker (acts ++ [.abandon taker]) = without taker acts := by
    simp [without, Act.taker?]
  obtain ⟨after, same⟩ := shadow.run agrees ungranted
  rw [shorter] at after same
  have gone : taker ∉ unanswered (watched.run (acts ++ [.abandon taker])).log := by
    rw [run_append]
    exact silent_of_abandon (watched.run acts) taker
  have unqueued := (agrees.run (acts ++ [.abandon taker])).not_waits gone
  refine ⟨same, ?_, fun other => ?_⟩
  · rw [after.gate, hide_of_not_mem fun queued => unqueued (.inl queued)]
  · by_cases differ : other = taker
    · rw [differ]
      exact iff_of_false gone after.silent
    · exact after.asks other differ

end Watched

/-- **First come, first served.** The log of every run of a gate says the following.

Whenever somebody is granted a slot, everybody who came before them was granted one before, or
walked away; and whoever comes while others wait stands behind them. Nobody is answered twice, and
nobody is granted two slots, without having come anew: an acquisition is admitted or refused at most
once, and never both. A slot that is given back, or that its owner walks away from without having
seen it, goes to the first who waits at the open gate and to nobody else, and to nobody if nobody
waits or the gate is closed.

Whoever walks away while they wait leaves the others in their order. If they were granted no slot
since they came, then everything that happens to the others is what would have happened had they not
come, up to then and ever after. -/
theorem admitted_in_order (capacity : Option Nat) (acts : List Act) :
    let watched := (Watched.new capacity).run acts
    watched.gate = (Gate.new capacity).run acts ∧
    (∀ front mid rest back earlier later,
      watched.log =
        front ++ .began earlier :: (mid ++ .began later :: (rest ++ .granted later :: back)) →
      .granted earlier ∈ mid ++ rest ∨ .withdrew earlier ∈ mid ++ rest) ∧
    (∀ taker, watched.gate.queue ≠ [] → watched.gate.isPresent taker = false →
      watched.asks taker = false →
      watched.events (.enter taker) = [.began taker] ∧
      (watched.act (.enter taker)).gate =
        { watched.gate with queue := watched.gate.queue ++ [taker] }) ∧
    (∀ front mid back first second taker,
      watched.log = front ++ first :: (mid ++ second :: back) →
      first.resolves? = some taker → second.resolves? = some taker → .began taker ∈ mid) ∧
    (∀ front mid back taker,
      watched.log = front ++ .granted taker :: (mid ++ .granted taker :: back) →
      .began taker ∈ mid) ∧
    (∀ taker ∈ watched.gate.held,
      watched.events (.leave taker) =
        .left taker ::
          if watched.gate.closed then []
          else ((ungranted watched.log).head?.map .granted).toList) ∧
    (∀ taker ∈ watched.gate.granted,
      watched.events (.abandon taker) =
        .withdrew taker ::
          if watched.gate.closed then []
          else ((ungranted watched.log).head?.map .granted).toList) ∧
    (∀ taker ∈ watched.gate.queue,
      watched.events (.abandon taker) = [.withdrew taker] ∧
      (watched.act (.abandon taker)).gate =
        { watched.gate with queue := watched.gate.queue.filter (· != taker) }) ∧
    (∀ taker, taker ∉ unanswered watched.log → taker ∉ watched.gate.held →
      ∀ mid, .granted taker ∉ watched.chronicle (mid ++ [.abandon taker]) →
      ofOthers taker (watched.chronicle (mid ++ [.abandon taker])) =
        watched.chronicle (without taker mid) ∧
      ∀ back,
        (watched.run (mid ++ [.abandon taker])).chronicle back =
          (watched.run (without taker mid)).chronicle back ∧
        ((watched.run (mid ++ [.abandon taker])).run back).gate =
          ((watched.run (without taker mid)).run back).gate) := by
  intro watched
  have agrees : watched.Agrees 0 := (Watched.agrees_new capacity).run acts
  have lawful := agrees.lawful
  refine ⟨Watched.gate_run _ acts, ?_, fun taker => agrees.enter_behind, ?_, ?_,
    fun taker => agrees.leave_passes, fun taker => agrees.abandon_passes,
    fun taker => agrees.abandon_leaves, ?_⟩
  · intro front mid rest back earlier later split
    exact Lawful.granted_in_order (split ▸ lawful)
  · intro front mid back first second taker split
    exact Lawful.resolved_once (split ▸ lawful)
  · intro front mid back taker split
    exact Lawful.granted_once (split ▸ lawful)
  · intro taker silent unheld mid ungranted
    obtain ⟨same, alike⟩ := agrees.forgets silent unheld ungranted
    exact ⟨same, fun back => alike.run back⟩

/-- A run at a gate with one slot: two wait behind the first, who gives back, and so does the next. -/
def servedRun : List Act :=
  [.enter 0, .enter 1, .enter 2, .leave 0, .claim 1, .leave 1]

/-- In that run the second is granted a slot before the third. Had the second walked away instead,
the third would have been served as if nobody had stood before them. -/
theorem admitted_in_order_servedRun :
    (Event.granted 1 ∈ [.left 0, .granted 1, .admitted 1, .left 1] ∨
      Event.withdrew 1 ∈ [.left 0, .granted 1, .admitted 1, .left 1]) ∧
    ofOthers 1
        (((Watched.new (some 1)).run [.enter 0]).chronicle [.enter 1, .enter 2, .abandon 1]) =
      [.began 2] := by
  obtain ⟨_, order, _⟩ := admitted_in_order (some 1) servedRun
  obtain ⟨_, _, _, _, _, _, _, _, forgets⟩ := admitted_in_order (some 1) [.enter 0]
  refine ⟨?_, ?_⟩
  · exact order [.began 0, .granted 0, .admitted 0] [] [.left 0, .granted 1, .admitted 1, .left 1] []
      1 2 (by decide +kernel)
  · exact (forgets 1 (by decide +kernel) (by decide +kernel) [.enter 1, .enter 2]
      (by decide +kernel)).1.trans (by decide +kernel)

end Gate

end ResilientHttp
