import ResilientHttp.Proofs.Gate.Custody
import ResilientHttp.Proofs.Lists
import Mathlib.Data.List.Induction
import Mathlib.Data.List.Perm.Lattice

/-!
# What happens at a gate

A gate knows who waits and who has a slot, but not how it came to that. Here a gate is watched: every
act adds to a log what it means for those who want a slot (`Gate.Event`). The same taker may come
again after a slot was given back, so an acquisition is what the log tells of a taker from one
`began` on.

Three rolls are read off a log alone: who wants a slot and was not answered, who was not granted one,
and who was granted one and has not given it back. They say when an event is in order
(`Event.Warranted`): above all, a slot is granted to nobody but the first of those who were not
granted one. A log in which every event is in order is lawful, and what the order of admission means
follows from that without a look at the gate (`Lawful.granted_in_order`, `Lawful.resolved_once`).

The log of a watched gate is lawful, and its rolls are the lists of the gate (`Agrees`): nobody is
forgotten, and nothing is told that did not happen.
-/

set_option autoImplicit false

namespace ResilientHttp

namespace Gate

/-- What becomes of somebody who wants a slot. -/
inductive Event where
  /-- They come. -/
  | began (taker : Nat)
  /-- A slot is theirs, whether they know it yet or not. -/
  | granted (taker : Nat)
  /-- They are told that a slot is theirs. -/
  | admitted (taker : Nat)
  /-- They are told that the gate is closed. A slot that they did not know of is given back. -/
  | refused (taker : Nat)
  /-- They walk away before they are told anything, and give back a slot that they did not know
  of. -/
  | withdrew (taker : Nat)
  /-- They give back their slot. -/
  | left (taker : Nat)
  deriving DecidableEq, Repr

namespace Event

/-- Whom the event is about. -/
def taker : Event → Nat
  | began taker => taker
  | granted taker => taker
  | admitted taker => taker
  | refused taker => taker
  | withdrew taker => taker
  | left taker => taker

/-- Who begins an acquisition. -/
def begins? : Event → Option Nat
  | began taker => some taker
  | _ => none

/-- Who is granted a slot. -/
def grants? : Event → Option Nat
  | granted taker => some taker
  | _ => none

/-- Who is told what became of the acquisition. -/
def resolves? : Event → Option Nat
  | admitted taker => some taker
  | refused taker => some taker
  | _ => none

/-- Whose acquisition is over, with an answer or without. -/
def concludes? : Event → Option Nat
  | admitted taker => some taker
  | refused taker => some taker
  | withdrew taker => some taker
  | _ => none

/-- Who does not wait for a grant any more. -/
def unqueues? : Event → Option Nat
  | granted taker => some taker
  | refused taker => some taker
  | withdrew taker => some taker
  | _ => none

/-- Whose slot, if they have one, is given back. -/
def releases? : Event → Option Nat
  | refused taker => some taker
  | withdrew taker => some taker
  | left taker => some taker
  | _ => none

/-- An answer ends an acquisition. -/
theorem concludes?_of_resolves? {event : Event} {taker : Nat}
    (resolves : event.resolves? = some taker) :
    event.concludes? = some taker ∧ event.begins? = none := by
  cases event <;> simp_all [resolves?, concludes?, begins?]

theorem mem_of_begins? {events : List Event} {taker : Nat}
    (begins : ∃ event ∈ events, event.begins? = some taker) : .began taker ∈ events := by
  obtain ⟨event, member, begins⟩ := begins
  cases event with
  | began other => exact Option.some.inj begins ▸ member
  | _ => cases begins

end Event

/-! ## Rolls -/

/-- Those who joined and have not quit since, in the order in which they joined. -/
def roll (joins quits : Event → Option Nat) (log : List Event) : List Nat :=
  log.foldl
    (fun present event =>
      (present.filter fun taker => quits event != some taker) ++ (joins event).toList)
    []

/-- Who was not answered yet. -/
abbrev unanswered : List Event → List Nat := roll Event.begins? Event.concludes?

/-- Who was not granted a slot yet. -/
abbrev ungranted : List Event → List Nat := roll Event.begins? Event.unqueues?

/-- Who was granted a slot and has not given it back. -/
abbrev unreleased : List Event → List Nat := roll Event.grants? Event.releases?

section Rolls

variable {joins quits : Event → Option Nat} {log more : List Event} {event : Event} {taker : Nat}

@[simp]
theorem roll_nil (joins quits : Event → Option Nat) : roll joins quits [] = [] := rfl

theorem roll_concat (joins quits : Event → Option Nat) (log : List Event) (event : Event) :
    roll joins quits (log ++ [event]) =
      ((roll joins quits log).filter fun taker => quits event != some taker) ++
        (joins event).toList := by
  simp [roll, List.foldl_append]

theorem mem_roll_concat :
    taker ∈ roll joins quits (log ++ [event]) ↔
      (taker ∈ roll joins quits log ∧ quits event ≠ some taker) ∨ joins event = some taker := by
  rw [roll_concat, List.mem_append, List.mem_filter, Option.mem_toList, bne_iff_ne]

/-- A longer log keeps those who did not quit, in their order, before those who joined. -/
theorem exists_roll_append (joins quits : Event → Option Nat) (log more : List Event) :
    ∃ newcomers,
      roll joins quits (log ++ more) =
        ((roll joins quits log).filter fun taker =>
          more.all fun event => quits event != some taker) ++ newcomers ∧
      ∀ taker ∈ newcomers, ∃ event ∈ more, joins event = some taker := by
  induction more using List.reverseRecOn with
  | nil => exact ⟨[], by simp, by simp⟩
  | append_singleton front last ih =>
      obtain ⟨newcomers, parts, joined⟩ := ih
      refine ⟨(newcomers.filter fun taker => quits last != some taker) ++ (joins last).toList,
        ?_, ?_⟩
      · rw [← List.append_assoc, roll_concat, parts, List.filter_append, List.filter_filter,
          List.append_assoc]
        congr 2
        funext taker
        simp [List.all_append, Bool.and_comm]
      · intro taker member
        rcases List.mem_append.1 member with old | new
        · obtain ⟨event, present, joining⟩ := joined taker (List.mem_filter.1 old).1
          exact ⟨event, List.mem_append_left _ present, joining⟩
        · exact ⟨last, by simp, Option.mem_toList.1 new⟩

/-- Whoever is on the roll of a longer log was on it before or joined. -/
theorem mem_roll_append (member : taker ∈ roll joins quits (log ++ more)) :
    taker ∈ roll joins quits log ∨ ∃ event ∈ more, joins event = some taker := by
  obtain ⟨newcomers, parts, joined⟩ := exists_roll_append joins quits log more
  rw [parts] at member
  exact (List.mem_append.1 member).imp (fun old => (List.mem_filter.1 old).1) (joined taker)

/-- Whoever does not quit stays on the roll. -/
theorem mem_roll_append_of_mem (member : taker ∈ roll joins quits log)
    (stays : ∀ event ∈ more, quits event ≠ some taker) :
    taker ∈ roll joins quits (log ++ more) := by
  obtain ⟨newcomers, parts, _⟩ := exists_roll_append joins quits log more
  rw [parts]
  refine List.mem_append_left _ (List.mem_filter.2 ⟨member, List.all_eq_true.2 ?_⟩)
  exact fun event present => bne_iff_ne.2 (stays event present)

/-- Whoever quit and is on the roll again joined in between. -/
theorem joined_since (member : taker ∈ roll joins quits (log ++ event :: more))
    (quit : quits event = some taker) (joinless : joins event = none) :
    ∃ again ∈ more, joins again = some taker := by
  rw [List.append_cons] at member
  refine (mem_roll_append member).resolve_left fun still => ?_
  rw [mem_roll_concat, quit, joinless] at still
  simp at still

end Rolls

/-! ## Lawful logs -/

/-- An event is in order after a log. -/
def Event.Warranted (log : List Event) : Event → Prop
  | began taker => taker ∉ unanswered log ∧ taker ∉ unreleased log
  | granted taker => (ungranted log).head? = some taker ∧ ∀ other, refused other ∉ log
  | admitted taker => taker ∈ unanswered log ∧ taker ∈ unreleased log
  | refused taker => taker ∈ unanswered log
  | withdrew taker => taker ∈ unanswered log
  | left taker => taker ∈ unreleased log ∧ taker ∉ unanswered log

/-- Every event of a log is in order after those before it. -/
def Lawful (log : List Event) : Prop :=
  ∀ front event back, log = front ++ event :: back → event.Warranted front

namespace Lawful

variable {log more : List Event}

theorem nil : Lawful [] := fun front event back split => by simp at split

theorem concat (lawful : Lawful log) {event : Event} (warranted : event.Warranted log) :
    Lawful (log ++ [event]) := by
  intro front other back split
  obtain ⟨rfl, rfl, rfl⟩ | ⟨init, rfl, old⟩ := Splits.concat_eq_iff.1 split
  · exact warranted
  · exact lawful front other init old

theorem of_append (lawful : Lawful (log ++ more)) : Lawful log := fun front event back split =>
  lawful front event (back ++ more) (by rw [split, List.append_assoc, List.cons_append])

/-- Who was not granted a slot was not answered, and has none. -/
theorem of_mem_ungranted (lawful : Lawful log) :
    ∀ taker ∈ ungranted log, taker ∈ unanswered log ∧ taker ∉ unreleased log := by
  induction log using List.reverseRecOn with
  | nil => simp
  | append_singleton front last ih =>
      have before := ih lawful.of_append
      have warranted := lawful front last [] rfl
      intro taker member
      simp only [mem_roll_concat] at member ⊢
      cases last <;>
        simp_all [Event.begins?, Event.unqueues?, Event.concludes?, Event.grants?,
          Event.releases?, Event.Warranted] <;>
        grind

/-- **Slots are granted in the order of arrival.** When somebody is granted a slot, everybody who
came before was granted one before, or walked away. -/
theorem granted_in_order {front mid rest back : List Event} {earlier later : Nat}
    (lawful : Lawful
      (front ++ .began earlier :: (mid ++ .began later :: (rest ++ .granted later :: back)))) :
    .granted earlier ∈ mid ++ rest ∨ .withdrew earlier ∈ mid ++ rest := by
  let arrived := front ++ [.began earlier]
  let waiting := arrived ++ mid
  let granting := (waiting ++ [.began later]) ++ rest
  have parts :
      front ++ .began earlier :: (mid ++ .began later :: (rest ++ .granted later :: back)) =
        granting ++ .granted later :: back := by simp [granting, waiting, arrived]
  rw [parts] at lawful
  obtain ⟨first, unrefused⟩ := lawful granting (.granted later) back rfl
  by_contra neither
  rw [not_or] at neither
  have stays : ∀ event ∈ mid ++ rest, event.unqueues? ≠ some earlier := by
    intro event member unqueues
    cases event with
    | granted taker => exact neither.1 (Option.some.inj unqueues ▸ member)
    | withdrew taker => exact neither.2 (Option.some.inj unqueues ▸ member)
    | refused taker =>
        refine unrefused taker ?_
        simp only [granting, waiting, List.mem_append] at member ⊢
        tauto
    | _ => cases unqueues
  -- Whoever came first still stands before the other when that one is granted a slot.
  have present : earlier ∈ ungranted waiting :=
    mem_roll_append_of_mem (mem_roll_concat.2 (.inr rfl)) fun event member =>
      stays event (List.mem_append_left _ member)
  have absent : later ∉ ungranted waiting := by
    have before : Lawful (waiting ++ .began later :: (rest ++ .granted later :: back)) := by
      simpa [granting] using lawful
    have fresh := before waiting (.began later) _ rfl
    exact fun member => fresh.1 (before.of_append.of_mem_ungranted later member).1
  obtain ⟨newcomers, order, _⟩ :=
    exists_roll_append Event.begins? Event.unqueues? waiting (.began later :: rest)
  have ahead : earlier ∈ (ungranted waiting).filter fun taker =>
      (Event.began later :: rest).all fun event => event.unqueues? != some taker := by
    refine List.mem_filter.2 ⟨present, List.all_eq_true.2 fun event member => bne_iff_ne.2 ?_⟩
    rcases List.mem_cons.1 member with rfl | further
    · simp [Event.unqueues?]
    · exact stays event (List.mem_append_right _ further)
  have grants : (ungranted (waiting ++ .began later :: rest)).head? = some later := by
    simpa [granting] using first
  obtain ⟨head, tail, nonempty⟩ := List.exists_cons_of_ne_nil (List.ne_nil_of_mem ahead)
  rw [ungranted, order, nonempty, List.cons_append, List.head?_cons, Option.some.injEq] at grants
  subst grants
  exact absent (List.mem_filter.1 (nonempty ▸ List.mem_cons_self)).1

/-- **Nobody is answered twice.** Between two answers to the same taker lies the begin of another
acquisition. -/
theorem resolved_once {front mid back : List Event} {first second : Event} {taker : Nat}
    (lawful : Lawful (front ++ first :: (mid ++ second :: back)))
    (one : first.resolves? = some taker) (two : second.resolves? = some taker) :
    .began taker ∈ mid := by
  have warranted := lawful (front ++ first :: mid) second back (by simp)
  have asking : taker ∈ unanswered (front ++ first :: mid) := by
    cases second with
    | admitted other => exact Option.some.inj two ▸ warranted.1
    | refused other => exact Option.some.inj two ▸ warranted
    | _ => cases two
  obtain ⟨concludes, begins⟩ := Event.concludes?_of_resolves? one
  exact Event.mem_of_begins? (joined_since asking concludes begins)

/-- **Nobody is granted two slots.** Between two grants to the same taker lies the begin of another
acquisition. -/
theorem granted_once {front mid back : List Event} {taker : Nat}
    (lawful : Lawful (front ++ .granted taker :: (mid ++ .granted taker :: back))) :
    .began taker ∈ mid := by
  have warranted := lawful (front ++ .granted taker :: mid) (.granted taker) back (by simp)
  exact Event.mem_of_begins?
    (joined_since (List.mem_of_mem_head? warranted.1) rfl rfl)

end Lawful

end Gate

end ResilientHttp
