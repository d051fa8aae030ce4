import ResilientHttp.Cancellation
import ResilientHttp.Proofs.Lists
import Mathlib.Data.List.Basic

/-!
# Nobody sleeps through a cancellation

A waiter registers with the bell and then looks at the flag, and a caller raises the flag and then
rings the bell, in small steps between which everybody else may act. The latch is sound in every
state that a run can reach (`Latch.Sound.run`): nobody is home before the flag is up, the flag is up
exactly if some caller has raised it, and once a call is over the bell has rung for everybody who is
asleep.

The first part says that the second step of a waiter does not miss the first step of a caller, and
the last that the second step of a caller does not miss the first step of a waiter. So a waiter who
takes its three steps after the end of a call is home, whatever happens between these steps
(`Latch.home_of_due`).

Waiters do not depend on each other: a run without all steps of one waiter does the same to everything
else (`Latch.run_without`). After the end of a call they do not depend on further calls either
(`Latch.Sound.standings_without_callers`).
-/

set_option autoImplicit false

namespace ResilientHttp

/-- What can happen to a waiter in one step, while the flag is up or down. -/
inductive Waiter.Moves (isRaised : Bool) : Waiter → Waiter → Prop
  | stays {waiter : Waiter} : Moves isRaised waiter waiter
  | registers {rung : Bool} : Moves isRaised ⟨.arriving, rung⟩ ⟨.registered, false⟩
  | returns {rung : Bool} (up : isRaised = true) :
      Moves isRaised ⟨.registered, rung⟩ ⟨.returned, false⟩
  | sleeps {rung : Bool} (down : isRaised = false) :
      Moves isRaised ⟨.registered, rung⟩ ⟨.asleep, rung⟩
  | wakes : Moves isRaised ⟨.asleep, true⟩ ⟨.arriving, false⟩
  | hears {waiter : Waiter} : Moves isRaised waiter { waiter with rung := true }

namespace Waiter

variable {isRaised : Bool} {waiter after : Waiter}

theorem moves_register (isRaised : Bool) (waiter : Waiter) :
    Moves isRaised waiter waiter.register := by
  obtain ⟨standing, rung⟩ := waiter
  cases standing with
  | arriving => exact .registers
  | registered | asleep | returned => exact .stays

theorem moves_look (isRaised : Bool) (waiter : Waiter) :
    Moves isRaised waiter (waiter.look isRaised) := by
  obtain ⟨standing, rung⟩ := waiter
  cases standing with
  | registered =>
      cases isRaised with
      | true => exact .returns rfl
      | false => exact .sleeps rfl
  | arriving | asleep | returned => exact .stays

theorem moves_wake (isRaised : Bool) (waiter : Waiter) : Moves isRaised waiter waiter.wake := by
  obtain ⟨standing, rung⟩ := waiter
  cases standing with
  | asleep =>
      cases rung with
      | true => exact .wakes
      | false => exact .stays
  | arriving | registered | returned => exact .stays

theorem moves_hear (isRaised : Bool) (waiter : Waiter) : Moves isRaised waiter waiter.hear := by
  obtain ⟨standing, rung⟩ := waiter
  cases standing with
  | registered | asleep => exact .hears
  | arriving | returned => exact .stays

/-- Whoever is asleep hears the bell. -/
theorem rung_hear (asleep : waiter.hear.standing = .asleep) : waiter.hear.rung = true := by
  obtain ⟨standing, rung⟩ := waiter
  cases standing with
  | registered | asleep => rfl
  | arriving | returned => cases asleep

/-- Whoever is home after a step was home before, or has seen the flag up. -/
theorem Moves.returned (moves : Moves isRaised waiter after) (home : after.standing = .returned) :
    waiter.standing = .returned ∨ isRaised = true := by
  cases moves with
  | stays | hears => exact .inl home
  | returns up => exact .inr up
  | registers | sleeps | wakes => cases home

/-- While the flag is up nobody falls asleep, and nobody asleep forgets that the bell has rung. -/
theorem Moves.asleep (moves : Moves isRaised waiter after) (up : isRaised = true)
    (asleep : after.standing = .asleep) :
    waiter.standing = .asleep ∧ (waiter.rung = true → after.rung = true) := by
  cases moves with
  | stays => exact ⟨asleep, id⟩
  | hears => exact ⟨asleep, fun _ => rfl⟩
  | sleeps down => simp [up] at down
  | registers | returns | wakes => cases asleep

end Waiter

namespace Raising

/-- Raises the flag, if that is the next thing to do. -/
def raise : Raising → Raising
  | .calling => .raised
  | progress => progress

/-- Rings the bell, if that is the next thing to do. -/
def ring : Raising → Raising
  | .raised => .finished
  | progress => progress

end Raising

attribute [ext] Latch

namespace Latch

variable {latch : Latch} {name : Nat} {waiter : Waiter}

/-! ## What a step does to one waiter and to one caller -/

/-- What a step makes of a waiter who is there before and after. -/
def moved (latch : Latch) (name : Nat) (waiter : Waiter) : Act → Waiter
  | .register other => if name = other then waiter.register else waiter
  | .look other => if name = other then waiter.look latch.isRaised else waiter
  | .wake other => if name = other then waiter.wake else waiter
  | .ring caller => if latch.callers.lookup caller = some .raised then waiter.hear else waiter
  | _ => waiter

theorem moves_moved (latch : Latch) (name : Nat) (waiter : Waiter) (step : Act) :
    Waiter.Moves latch.isRaised waiter (latch.moved name waiter step) := by
  cases step with
  | register other =>
      simp only [moved]
      split
      · exact Waiter.moves_register _ _
      · exact .stays
  | look other =>
      simp only [moved]
      split
      · exact Waiter.moves_look _ _
      · exact .stays
  | wake other =>
      simp only [moved]
      split
      · exact Waiter.moves_wake _ _
      · exact .stays
  | ring caller =>
      simp only [moved]
      split
      · exact Waiter.moves_hear _ _
      · exact .stays
  | arrive _ | depart _ | call _ | raise _ => exact .stays

/-- What a step makes of a caller, who may not be there yet. -/
def progressed (caller : Nat) (progress : Option Raising) : Act → Option Raising
  | .call other => if caller = other then some (progress.getD .calling) else progress
  | .raise other => if caller = other then progress.map Raising.raise else progress
  | .ring other => if caller = other then progress.map Raising.ring else progress
  | _ => progress

/-- A caller is past raising the flag if it was before, or raises it now. -/
theorem progressed_past_iff {caller : Nat} {before : Option Raising} {step : Act} :
    (∃ progress, progressed caller before step = some progress ∧ progress ≠ .calling) ↔
      (∃ progress, before = some progress ∧ progress ≠ .calling) ∨
        step = .raise caller ∧ before = some .calling := by
  cases step with
  | call other | raise other | ring other =>
      simp only [progressed]
      by_cases same : caller = other
      · subst same
        rcases before with _ | (_ | _ | _) <;> simp [Raising.raise, Raising.ring]
      · simp [same, eq_comm]
  | _ => simp [progressed]

/-- A caller is at the end of its call if it was before, or rings the bell now. -/
theorem progressed_finished_iff {caller : Nat} {before : Option Raising} {step : Act} :
    progressed caller before step = some .finished ↔
      before = some .finished ∨ step = .ring caller ∧ before = some .raised := by
  cases step with
  | call other | raise other | ring other =>
      simp only [progressed]
      by_cases same : caller = other
      · subst same
        rcases before with _ | (_ | _ | _) <;> simp [Raising.raise, Raising.ring]
      · simp [same, eq_comm]
  | _ => simp [progressed]

/-- Every waiter moves by itself. One who arrives is put at the end, and one who departs is taken
out. -/
theorem waiters_act (latch : Latch) (step : Act) :
    (latch.act step).waiters =
      match step with
      | .arrive name =>
          if (latch.waiters.lookup name).isSome then latch.waiters
          else latch.waiters ++ [(name, {})]
      | .depart name => latch.waiters.filter (·.1 != name)
      | step => latch.waiters.map fun entry => (entry.1, latch.moved entry.1 entry.2 step) := by
  have one : ∀ (name : Nat) (change : Waiter → Waiter), (latch.onWaiter name change).waiters =
      latch.waiters.map fun entry =>
        (entry.1, if entry.1 = name then change entry.2 else entry.2) := by
    intro name change
    refine List.map_congr_left fun entry _ => ?_
    split <;> rfl
  cases step with
  | arrive name => simp only [act]; split <;> rfl
  | register name => exact one name _
  | look name => exact one name _
  | wake name => exact one name _
  | depart name => rfl
  | call caller => simp only [act, moved, List.map_id']; split <;> rfl
  | raise caller => simp only [act, moved, List.map_id']; split <;> rfl
  | ring caller =>
      simp only [act, moved]
      split
      · rename_i raised
        simp only [raised, if_true]
        rfl
      · rename_i other
        simp only [if_neg other, List.map_id']

/-- Every caller moves by itself. -/
theorem caller_act (latch : Latch) (step : Act) (caller : Nat) :
    (latch.act step).callers.lookup caller =
      progressed caller (latch.callers.lookup caller) step := by
  have one : ∀ (name : Nat) (next : Raising), (latch.onCaller name next).callers.lookup caller =
      if caller = name then (latch.callers.lookup caller).map fun _ => next
      else latch.callers.lookup caller :=
    fun name next => Entries.lookup_change latch.callers name caller fun _ => next
  cases step with
  | call name =>
      simp only [act, progressed]
      by_cases same : caller = name
      · subst same
        cases there : latch.callers.lookup caller <;> simp [there, List.lookup_append]
      · rw [if_neg same]
        split
        · rfl
        · simp [List.lookup_append, List.lookup_cons, beq_eq_false_iff_ne.2 same]
  | raise name =>
      simp only [act, progressed]
      split
      · rename_i calling
        refine (one name .raised).trans ?_
        by_cases same : caller = name
        · subst same
          simp [calling, Raising.raise]
        · rw [if_neg same, if_neg same]
      · rename_i idle
        by_cases same : caller = name
        · subst same
          rcases there : latch.callers.lookup caller with _ | (_ | _ | _) <;>
            simp_all [Raising.raise]
        · rw [if_neg same]
  | ring name =>
      simp only [act, progressed]
      split
      · rename_i raised
        refine (one name .finished).trans ?_
        by_cases same : caller = name
        · subst same
          simp [raised, Raising.ring]
        · rw [if_neg same, if_neg same]
      · rename_i idle
        by_cases same : caller = name
        · subst same
          rcases there : latch.callers.lookup caller with _ | (_ | _ | _) <;>
            simp_all [Raising.ring]
        · rw [if_neg same]
  | arrive name =>
      simp only [act]
      split <;> rfl
  | register name => rfl
  | look name => rfl
  | wake name => rfl
  | depart name => rfl

/-- The flag goes up when a caller raises it, and never goes down. -/
theorem isRaised_act_iff (latch : Latch) (step : Act) :
    (latch.act step).isRaised = true ↔ latch.isRaised = true ∨
      ∃ caller, step = .raise caller ∧ latch.callers.lookup caller = some .calling := by
  constructor
  · intro up
    by_cases before : latch.isRaised = true
    · exact .inl before
    · refine .inr ?_
      cases step <;> simp only [act, onWaiter, onCaller] at up <;> (try split at up) <;>
        simp_all
  · rintro (up | ⟨caller, rfl, calling⟩)
    · exact isRaised_act up step
    · simp [act, calling]

/-! ## Soundness -/

/-- Some call is over. -/
def HasRung (latch : Latch) : Prop :=
  ∃ caller, latch.callers.lookup caller = some .finished

/-- What holds of a latch in every state. -/
structure Sound (latch : Latch) : Prop where
  /-- Nobody is home before the flag is up. -/
  home : ∀ name waiter, (name, waiter) ∈ latch.waiters → waiter.standing = .returned →
    latch.isRaised = true
  /-- The flag is up if somebody has raised it, and only then. -/
  raised : latch.isRaised = true ↔
    ∃ caller progress, latch.callers.lookup caller = some progress ∧ progress ≠ .calling
  /-- Once a call is over, the bell has rung for everybody who is asleep. -/
  heard : latch.HasRung → ∀ name waiter, (name, waiter) ∈ latch.waiters →
    waiter.standing = .asleep → waiter.rung = true

/-- Whoever is there after a step was there before, or has just arrived. -/
theorem mem_waiters_of_act {step : Act} {after : Waiter}
    (present : (name, after) ∈ (latch.act step).waiters) :
    after = {} ∨
      ∃ before, (name, before) ∈ latch.waiters ∧ after = latch.moved name before step := by
  rw [waiters_act] at present
  cases step with
  | arrive other =>
      dsimp only at present
      split at present
      · exact .inr ⟨after, present, rfl⟩
      · rcases List.mem_append.1 present with old | new
        · exact .inr ⟨after, old, rfl⟩
        · exact .inl (congrArg Prod.snd (List.mem_singleton.1 new))
  | depart other => exact .inr ⟨after, (List.mem_filter.1 present).1, rfl⟩
  | register _ | look _ | wake _ | call _ | raise _ | ring _ =>
      obtain ⟨⟨key, before⟩, member, same⟩ := List.mem_map.1 present
      cases same
      exact .inr ⟨before, member, rfl⟩

/-- Whoever does not depart is there after a step. -/
theorem mem_waiters_act (present : (name, waiter) ∈ latch.waiters) (step : Act)
    (stays : step ≠ .depart name) :
    (name, latch.moved name waiter step) ∈ (latch.act step).waiters := by
  rw [waiters_act]
  cases step with
  | arrive other =>
      dsimp only
      split
      · exact present
      · exact List.mem_append_left _ present
  | depart other =>
      have apart : name ≠ other := fun same => stays (same ▸ rfl)
      exact List.mem_filter.2 ⟨present, by simpa using apart⟩
  | register _ | look _ | wake _ | call _ | raise _ | ring _ =>
      exact List.mem_map.2 ⟨(name, waiter), present, rfl⟩

/-- A call ends when a caller rings the bell, and what is over stays over. -/
theorem hasRung_act_iff (latch : Latch) (step : Act) :
    (latch.act step).HasRung ↔ latch.HasRung ∨
      ∃ caller, step = .ring caller ∧ latch.callers.lookup caller = some .raised := by
  simp only [HasRung, caller_act, progressed_finished_iff, exists_or]

theorem isRaised_run (up : latch.isRaised = true) (steps : List Act) :
    (latch.run steps).isRaised = true := by
  induction steps generalizing latch with
  | nil => exact up
  | cons step rest ih => exact ih (isRaised_act up step)

namespace Sound

theorem isRaised (sound : latch.Sound) (rung : latch.HasRung) : latch.isRaised = true := by
  obtain ⟨caller, returned⟩ := rung
  exact sound.raised.2 ⟨caller, .finished, returned, by simp⟩

theorem new : Sound {} where
  home := by simp
  raised := by simp
  heard := by simp

/-- **Every step keeps the latch sound.** -/
theorem act (sound : latch.Sound) (step : Act) : (latch.act step).Sound where
  home name after present home := by
    rcases mem_waiters_of_act present with rfl | ⟨before, there, rfl⟩
    · cases home
    · refine isRaised_act ?_ step
      rcases (latch.moves_moved name before step).returned home with already | up
      · exact sound.home name before there already
      · exact up
  raised := by
    rw [isRaised_act_iff, sound.raised]
    simp only [caller_act, progressed_past_iff, exists_or]
  heard rung name after present asleep := by
    rcases mem_waiters_of_act present with rfl | ⟨before, there, rfl⟩
    · cases asleep
    · rcases (hasRung_act_iff latch step).1 rung with returned | ⟨caller, rfl, raised⟩
      -- A call was returned before: its caller has raised the flag, so nobody has fallen asleep since.
      · obtain ⟨slept, keeps⟩ :=
          (latch.moves_moved name before step).asleep (sound.isRaised returned) asleep
        exact keeps (sound.heard returned name before there slept)
      -- The bell rings now, and everybody who is asleep hears it.
      · have hears : latch.moved name before (.ring caller) = before.hear := if_pos raised
        rw [hears] at asleep ⊢
        exact Waiter.rung_hear asleep

theorem run (sound : latch.Sound) (steps : List Act) : (latch.run steps).Sound := by
  induction steps generalizing latch with
  | nil => exact sound
  | cons step rest ih => exact ih (sound.act step)

end Sound

/-! ## The way home -/

/-- Where a waiter stands after a step, once a call is over. -/
def Act.advance (name : Nat) (standing : Standing) : Act → Standing
  | .register other => if name = other ∧ standing = .arriving then .registered else standing
  | .look other => if name = other ∧ standing = .registered then .returned else standing
  | .wake other => if name = other ∧ standing = .asleep then .arriving else standing
  | _ => standing

/-- Once a call is over, a waiter moves as its standing says, and nothing else matters. -/
theorem Sound.standing_moved (sound : latch.Sound) (rung : latch.HasRung)
    (present : (name, waiter) ∈ latch.waiters) (step : Act) :
    (latch.moved name waiter step).standing = step.advance name waiter.standing := by
  have up : latch.isRaised = true := sound.isRaised rung
  have heard : waiter.standing = .asleep → waiter.rung = true := sound.heard rung name waiter present
  obtain ⟨standing, rung⟩ := waiter
  cases step with
  | register other =>
      by_cases own : name = other <;> cases standing <;>
        simp [moved, Act.advance, Waiter.register, own]
  | look other =>
      by_cases own : name = other <;> cases standing <;>
        simp [moved, Act.advance, Waiter.look, own, up]
  | wake other =>
      by_cases own : name = other <;> cases standing <;>
        simp_all [moved, Act.advance, Waiter.wake]
  | ring caller =>
      simp only [moved]
      split
      · cases standing <;> rfl
      · rfl
  | arrive _ | depart _ | call _ | raise _ => rfl

/-- The steps that take a waiter home once a call is over. -/
def due (name : Nat) : Standing → List Act
  | .asleep => resumeActs name
  | .arriving => [.register name, .look name]
  | .registered => [.look name]
  | .returned => []

/-- Whatever a waiter still has to do, it is the end of what a sleeper has to do. -/
theorem due_sublist (name : Nat) (standing : Standing) :
    (due name standing).Sublist (resumeActs name) := by
  cases standing with
  | asleep => exact .refl _
  | arriving => exact (List.suffix_cons _ _).sublist
  | registered => exact ((List.suffix_cons _ _).trans (List.suffix_cons _ _)).sublist
  | returned => exact List.nil_sublist _

/-- The step that is due takes a waiter on. -/
theorem due_advance {standing : Standing} {step : Act} {rest : List Act}
    (next : due name standing = step :: rest) : due name (step.advance name standing) = rest := by
  cases standing with
  | asleep | arriving | registered =>
      obtain ⟨rfl, rfl⟩ := List.cons.inj next
      simp [Act.advance, due]
  | returned => cases next

/-- No other step does. -/
theorem advance_of_not_due {standing : Standing} {step : Act}
    (other : (due name standing).head? ≠ some step) : step.advance name standing = standing := by
  cases step with
  | register _ | look _ | wake _ =>
      refine if_neg ?_
      rintro ⟨rfl, rfl⟩
      exact other rfl
  | _ => rfl

/-- **Whoever takes the steps that are due after the end of a call is home**, whatever else happens
between these steps. -/
theorem home_of_due (sound : latch.Sound) (rung : latch.HasRung) {steps : List Act}
    (present : (name, waiter) ∈ latch.waiters) (takes : (due name waiter.standing).Sublist steps)
    (stays : .depart name ∉ steps) :
    ∃ home, (name, home) ∈ (latch.run steps).waiters ∧ home.standing = .returned := by
  induction steps generalizing latch waiter with
  | nil =>
      refine ⟨waiter, present, ?_⟩
      obtain ⟨standing, rung⟩ := waiter
      cases standing with
      | returned => rfl
      | asleep | arriving | registered => cases takes
  | cons step rest ih =>
      have later : .depart name ∉ rest := fun departs => stays (List.mem_cons_of_mem _ departs)
      have there := mem_waiters_act present step fun departs => stays (by simp [departs])
      refine ih (sound.act step) ((hasRung_act_iff latch step).2 (.inl rung)) there ?_ later
      rw [sound.standing_moved rung present]
      by_cases next : (due name waiter.standing).head? = some step
      · obtain ⟨further, first⟩ := List.head?_eq_some_iff.1 next
        rw [first] at takes
        rw [due_advance first]
        exact List.cons_sublist_cons.1 takes
      · rw [advance_of_not_due next]
        cases todo : due name waiter.standing with
        | nil => exact List.nil_sublist _
        | cons first further =>
            rw [todo] at takes next
            exact List.Sublist.of_cons_of_ne (fun same => next (congrArg some same)) takes

/-! ## Waiters by themselves -/

/-- The waiter who takes a step. -/
def Act.waiter? : Act → Option Nat
  | .arrive name | .register name | .look name | .wake name | .depart name => some name
  | .call _ | .raise _ | .ring _ => none

/-- The latch without one of its waiters. -/
def without (latch : Latch) (name : Nat) : Latch :=
  { latch with waiters := latch.waiters.filter (·.1 != name) }

/-- Nobody else notices a step of a waiter. -/
theorem moved_of_own {step : Act} (own : step.waiter? = some name) {other : Nat}
    (apart : other ≠ name) (waiter : Waiter) : latch.moved other waiter step = waiter := by
  cases step with
  | register _ | look _ | wake _ =>
      obtain rfl := Option.some.inj own
      exact if_neg apart
  | arrive _ | depart _ => rfl
  | call _ | raise _ | ring _ => cases own

/-- The flag and the callers do not depend on the waiters. -/
theorem act_congr {other : Latch} (flag : latch.isRaised = other.isRaised)
    (callers : latch.callers = other.callers) (step : Act) :
    (latch.act step).isRaised = (other.act step).isRaised ∧
      (latch.act step).callers = (other.act step).callers := by
  obtain ⟨isRaised, waiters, _⟩ := latch
  obtain rfl : isRaised = other.isRaised := flag
  obtain rfl := callers
  cases step with
  | arrive name =>
      simp only [act]
      constructor <;> split <;> split <;> rfl
  | register _ | look _ | wake _ | depart _ => exact ⟨rfl, rfl⟩
  | call name =>
      simp only [act]
      constructor <;> split <;> rfl
  | raise name | ring name =>
      simp only [act]
      constructor <;> split <;> rfl

/-- A waiter touches neither the flag nor the callers. -/
theorem act_of_own (latch : Latch) {step : Act} (own : step.waiter? = some name) :
    (latch.act step).isRaised = latch.isRaised ∧ (latch.act step).callers = latch.callers := by
  cases step with
  | arrive other =>
      simp only [act]
      constructor <;> split <;> rfl
  | register _ | look _ | wake _ | depart _ => exact ⟨rfl, rfl⟩
  | call _ | raise _ | ring _ => cases own

/-- A waiter changes nothing but itself. -/
theorem act_without_of_own {step : Act} (own : step.waiter? = some name) :
    (latch.act step).without name = latch.without name := by
  obtain ⟨flag, callers⟩ := act_of_own latch own
  refine Latch.ext flag ?_ callers
  simp only [without, waiters_act]
  cases step with
  | arrive other =>
      obtain rfl := Option.some.inj own
      dsimp only
      split
      · rfl
      · simp
  | depart other =>
      obtain rfl := Option.some.inj own
      simp
  | register _ | look _ | wake _ =>
      exact Entries.filter_ne_map_of_still latch.waiters
        fun other waiter apart => moved_of_own own apart waiter
  | call _ | raise _ | ring _ => cases own

/-- Nothing else depends on a waiter. -/
theorem act_without {step : Act} (foreign : step.waiter? ≠ some name) :
    (latch.act step).without name = (latch.without name).act step := by
  have sides : (latch.act step).isRaised = ((latch.without name).act step).isRaised ∧
      (latch.act step).callers = ((latch.without name).act step).callers :=
    act_congr (show latch.isRaised = (latch.without name).isRaised from rfl) rfl step
  refine Latch.ext sides.1 ?_ sides.2
  rw [waiters_act (latch.without name)]
  simp only [without, waiters_act]
  cases step with
  | arrive other =>
      have apart : other ≠ name := fun same => foreign (same ▸ rfl)
      simp only [Entries.lookup_filter_ne, if_neg apart]
      split
      · rfl
      · simp [List.filter_append, apart]
  | depart other =>
      simp only [List.filter_filter, Bool.and_comm]
  | register _ | look _ | wake _ | call _ | raise _ | ring _ =>
      exact Entries.filter_ne_map latch.waiters name fun other waiter => latch.moved other waiter _

/-- **A run without all steps of a waiter does the same to everything else.** So nobody notices
whether a waiter came, what it did, or that it was dropped. -/
theorem run_without (latch : Latch) (name : Nat) (steps : List Act) :
    (latch.run steps).without name =
      (latch.without name).run (steps.filter fun step => step.waiter? ≠ some name) := by
  induction steps generalizing latch with
  | nil => rfl
  | cons step rest ih =>
      refine (ih (latch.act step)).trans ?_
      by_cases own : step.waiter? = some name
      · rw [act_without_of_own own, List.filter_cons_of_neg (by simpa using own)]
      · rw [act_without own, List.filter_cons_of_pos (by simpa using own)]
        rfl

/-! ## Cancelling again -/

/-- Where each waiter stands. -/
def standings (latch : Latch) : List (Nat × Standing) :=
  latch.waiters.map fun entry => (entry.1, entry.2.standing)

/-- Where the waiters stand after a step, once a call is over. -/
def Act.rearrange (standings : List (Nat × Standing)) : Act → List (Nat × Standing)
  | .arrive name =>
      if (standings.lookup name).isSome then standings else standings ++ [(name, .arriving)]
  | .depart name => standings.filter (·.1 != name)
  | step => standings.map fun entry => (entry.1, step.advance entry.1 entry.2)

/-- Where the waiters stand is all that matters for where they stand later. -/
theorem Sound.standings_act (sound : latch.Sound) (rung : latch.HasRung) (step : Act) :
    (latch.act step).standings = step.rearrange latch.standings := by
  simp only [standings, waiters_act]
  cases step with
  | arrive name =>
      simp only [Act.rearrange, Entries.lookup_map, Option.isSome_map]
      split <;> simp
  | depart name =>
      exact (Entries.filter_ne_map latch.waiters name fun _ waiter => waiter.standing).symm
  | register _ | look _ | wake _ | call _ | raise _ | ring _ =>
      simp only [Act.rearrange, List.map_map]
      refine List.map_congr_left fun entry present => ?_
      simp only [Function.comp_apply, sound.standing_moved rung present]

theorem Sound.standings_run (sound : latch.Sound) (rung : latch.HasRung) (steps : List Act) :
    (latch.run steps).standings = steps.foldl Act.rearrange latch.standings := by
  induction steps generalizing latch with
  | nil => rfl
  | cons step rest ih =>
      rw [List.foldl_cons, ← sound.standings_act rung]
      exact ih (sound.act step) ((hasRung_act_iff latch step).2 (.inl rung))

/-- A step of a caller. -/
def Act.isOfCaller (step : Act) : Bool := step.waiter?.isNone

/-- No waiter moves when a caller does. -/
theorem Act.rearrange_of_caller {step : Act} (caller : step.isOfCaller = true)
    (standings : List (Nat × Standing)) : step.rearrange standings = standings := by
  cases step with
  | call _ | raise _ | ring _ => exact List.map_id _
  | arrive _ | register _ | look _ | wake _ | depart _ => cases caller

/-- **Cancelling again changes nothing.** Once a call is over, the waiters do without all further
steps of callers what they do with them. -/
theorem Sound.standings_without_callers (sound : latch.Sound) (rung : latch.HasRung)
    (steps : List Act) :
    (latch.run steps).standings = (latch.run (steps.filter (!·.isOfCaller))).standings := by
  have same : (fun standings (step : Act) =>
      if (!step.isOfCaller) = true then step.rearrange standings else standings) =
      Act.rearrange := by
    funext standings step
    cases caller : step.isOfCaller with
    | true => exact (Act.rearrange_of_caller caller standings).symm
    | false => rfl
  rw [sound.standings_run rung, sound.standings_run rung, List.foldl_filter, same]

end Latch

end ResilientHttp
