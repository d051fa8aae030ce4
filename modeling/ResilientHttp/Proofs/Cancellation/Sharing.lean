import ResilientHttp.Tokens
import ResilientHttp.Proofs.Cancellation.Wakefulness

/-!
# A token and its copies

Tasks wait for a token, and callers cancel it, each through a name of their own. A latch sees the
steps that are taken through any of its names, in the order in which they are taken
(`Tokens.stepsAt`), and nothing else: copying a token, dropping one and what happens to other tokens
leave it as it is (`Tokens.latch_run`). So what holds of a single latch holds of a token and all its
copies, and nobody who waits for a token that was cancelled through any copy sleeps on
(`Tokens.no_cancellation_lost`).
-/

set_option autoImplicit false

namespace ResilientHttp

namespace Tokens

variable {tokens : Tokens} {place : Nat} {latch : Latch}

/-! ## What reaches a latch -/

/-- The step that an act takes at the latch at a place. -/
def step? (tokens : Tokens) (place : Nat) : Act → Option Latch.Act
  | .go name step => if tokens.names.lookup name = some place then some step else none
  | _ => none

/-- The steps that a run takes at the latch at a place, through whatever names. -/
def stepsAt (tokens : Tokens) (place : Nat) : List Act → List Latch.Act
  | [] => []
  | act :: rest => (tokens.step? place act).toList ++ (tokens.act act).stepsAt place rest

/-- An act does to a latch what its step at the latch does. -/
theorem latch_act (there : tokens.latches[place]? = some latch) (act : Act) :
    (tokens.act act).latches[place]? = some (latch.run (tokens.step? place act).toList) := by
  cases act with
  | make name =>
      have inside : place < tokens.latches.length := (List.getElem?_eq_some_iff.1 there).1
      exact (List.getElem?_append_left inside).trans there
  | copy name token =>
      simp only [Tokens.act]
      split <;> exact there
  | drop name => exact there
  | go name step =>
      simp only [Tokens.act, onLatch, step?]
      cases held : tokens.names.lookup name with
      | none => exact there
      | some other =>
          by_cases here : other = place
          · subst here
            simp [there, Latch.run]
          · simp [there, here, Latch.run]

/-- **A run does to a latch what the steps through its names do**, and no other act matters to it. -/
theorem latch_run (there : tokens.latches[place]? = some latch) (later : List Act) :
    (tokens.run later).latches[place]? = some (latch.run (tokens.stepsAt place later)) := by
  induction later generalizing tokens latch with
  | nil => exact there
  | cons act rest ih =>
      refine (ih (latch_act there act)).trans ?_
      rw [stepsAt, Latch.run, Latch.run, Latch.run, List.foldl_append]

/-! ## What holds of all tokens -/

/-- What holds of the tokens in every state. -/
structure Sound (tokens : Tokens) : Prop where
  latches : ∀ (place : Nat) (latch : Latch), tokens.latches[place]? = some latch → latch.Sound
  /-- Behind every name there is a latch. -/
  names : ∀ name place, tokens.names.lookup name = some place → place < tokens.latches.length

/-- Latches are not taken away. -/
theorem length_latches_act (tokens : Tokens) (act : Act) :
    (tokens.act act).latches.length =
      tokens.latches.length + (match act with | .make _ => 1 | _ => 0) := by
  cases act with
  | make name => simp [Tokens.act, Tokens.bind]
  | copy name token =>
      simp only [Tokens.act]
      split <;> rfl
  | drop name => rfl
  | go name step =>
      simp only [Tokens.act, onLatch]
      split <;> simp

/-- A latch that is there after an act was there before, or it is new. -/
theorem latch_of_act {act : Act} (there : (tokens.act act).latches[place]? = some latch) :
    latch = {} ∨ ∃ before, tokens.latches[place]? = some before ∧
      latch = before.run (tokens.step? place act).toList := by
  rcases Nat.lt_or_ge place tokens.latches.length with inside | beyond
  · have before := List.getElem?_eq_getElem inside
    exact .inr ⟨_, before, Option.some.inj (there.symm.trans (latch_act before act))⟩
  · have present := (List.getElem?_eq_some_iff.1 there).1
    rw [length_latches_act] at present
    cases act with
    | make name =>
        obtain rfl : place = tokens.latches.length := Nat.le_antisymm (Nat.lt_succ_iff.1 present) beyond
        exact .inl (by simpa [Tokens.act, Tokens.bind] using there.symm)
    | copy _ _ | drop _ | go _ _ => exact absurd beyond (Nat.not_le.2 present)

namespace Sound

theorem new : Sound {} where
  latches := by simp
  names := by simp

/-- **Every act keeps the tokens sound.** -/
theorem act (sound : tokens.Sound) (act : Act) : (tokens.act act).Sound where
  latches place latch there := by
    rcases latch_of_act there with rfl | ⟨before, found, rfl⟩
    · exact .new
    · exact (sound.latches place before found).run _
  names name place held := by
    rw [length_latches_act]
    cases act with
    | make token =>
        simp only [Tokens.act, Tokens.bind, Entries.lookup_replace] at held
        split at held
        · obtain rfl := Option.some.inj held
          exact Nat.lt_succ_self _
        · exact Nat.lt_succ_of_lt (sound.names name place held)
    | copy token source =>
        simp only [Tokens.act] at held
        split at held
        · rename_i other found
          rw [Tokens.bind, Entries.lookup_replace] at held
          split at held
          · obtain rfl := Option.some.inj held
            exact sound.names source other found
          · exact sound.names name place held
        · exact sound.names name place held
    | drop token =>
        simp only [Tokens.act, Entries.lookup_filter_ne] at held
        split at held
        · cases held
        · exact sound.names name place held
    | go token step =>
        simp only [Tokens.act, onLatch] at held
        split at held <;> exact sound.names name place held

theorem run (sound : tokens.Sound) (acts : List Act) : (tokens.run acts).Sound := by
  induction acts generalizing tokens with
  | nil => exact sound
  | cons act rest ih => exact ih (sound.act act)

end Sound

/-- A token says what its latch says. -/
theorem isCancelled_eq {name : String} (held : tokens.names.lookup name = some place)
    (there : tokens.latches[place]? = some latch) :
    tokens.isCancelled name = some latch.isRaised := by
  simp [isCancelled, latch?, held, there]

/-! ## Dropping a token -/

/-- An act is done through a token: a step at its latch, or a copy of it. -/
def Act.IsThrough (name : String) : Act → Prop
  | .go token _ => token = name
  | .copy _ token => token = name
  | .make _ | .drop _ => False

/-- The latches are the same, and so are all names but one. -/
structure SameBut (name : String) (left right : Tokens) : Prop where
  latches : left.latches = right.latches
  names : ∀ other, other ≠ name → left.names.lookup other = right.names.lookup other

namespace SameBut

variable {name : String} {left right : Tokens}

theorem drop (tokens : Tokens) (name : String) : SameBut name (tokens.act (.drop name)) tokens where
  latches := rfl
  names other apart := by simp only [Tokens.act, Entries.lookup_filter_ne, if_neg apart]

theorem bind (same : SameBut name left right) (token : String) (place : Nat) :
    SameBut name (left.bind token place) (right.bind token place) where
  latches := same.latches
  names other apart := by
    simp only [Tokens.bind, Entries.lookup_replace, same.names other apart]

/-- An act that is not done through the token does the same on both sides. -/
theorem act (same : SameBut name left right) {act : Act} (away : ¬ act.IsThrough name) :
    SameBut name (left.act act) (right.act act) := by
  cases act with
  | make token =>
      have grown : SameBut name { left with latches := left.latches ++ [{}] }
          { right with latches := right.latches ++ [{}] } :=
        ⟨congrArg (· ++ [{}]) same.latches, same.names⟩
      simp only [Tokens.act, congrArg List.length same.latches]
      exact grown.bind token _
  | copy token source =>
      simp only [Tokens.act, same.names source away]
      split
      · exact same.bind token _
      · exact same
  | drop token =>
      refine ⟨same.latches, fun other apart => ?_⟩
      simp only [Tokens.act, Entries.lookup_filter_ne, same.names other apart]
  | go token step =>
      simp only [Tokens.act, onLatch, same.names token away, same.latches]
      split
      · exact ⟨rfl, same.names⟩
      · exact ⟨same.latches, same.names⟩

theorem run (same : SameBut name left right) {acts : List Act}
    (away : ∀ act ∈ acts, ¬ act.IsThrough name) :
    SameBut name (left.run acts) (right.run acts) := by
  induction acts generalizing left right with
  | nil => exact same
  | cons act rest ih =>
      exact ih (same.act (away act (by simp))) fun later member =>
        away later (List.mem_cons_of_mem _ member)

theorem isCancelled (same : SameBut name left right) {other : String} (apart : other ≠ name) :
    left.isCancelled other = right.isCancelled other := by
  simp only [Tokens.isCancelled, latch?, same.latches, same.names other apart]

end SameBut

/-! ## No cancellation is lost -/

/-- **No cancellation is lost**, whatever tokens are made, copied and dropped, and however the steps
of those who wait for them and of those who cancel them are interleaved. In every state:

* A token reads what its latch says. A new token has a latch of its own, and reads that it is not
  cancelled; a copy has the latch of its source.
* Dropping a token changes nothing for whatever is not done through it.
* Nobody is home before the flag is up. The flag is up exactly if some caller has raised it, through
  whatever copy. Once a call is over, everybody asleep has heard the bell (`Latch.Sound`).

And whatever happens after that state, to a latch the steps through its names happen and nothing
else, and that is what all its names read then. If its flag is up it stays up. If a call is over, a
waiter is home after the steps of a sleeper whom the bell wakes, unless it was dropped. A waiter,
dropped or not, changes nothing but itself. And after a call that is over the waiters do as if no
further caller took a step. -/
theorem no_cancellation_lost (acts : List Act) :
    let tokens : Tokens := run {} acts
    (∀ name place, tokens.names.lookup name = some place →
      ∃ latch, tokens.latches[place]? = some latch ∧
        tokens.isCancelled name = some latch.isRaised) ∧
    (∀ name, (tokens.act (.make name)).names.lookup name = some tokens.latches.length ∧
      (tokens.act (.make name)).isCancelled name = some false) ∧
    (∀ name source place, tokens.names.lookup source = some place →
      (tokens.act (.copy name source)).names.lookup name = some place) ∧
    (∀ name later, (∀ act ∈ later, ¬ act.IsThrough name) →
      ((tokens.act (.drop name)).run later).latches = (tokens.run later).latches ∧
      ∀ other, other ≠ name →
        ((tokens.act (.drop name)).run later).isCancelled other =
          (tokens.run later).isCancelled other) ∧
    ∀ (place : Nat) (latch : Latch), tokens.latches[place]? = some latch →
      latch.Sound ∧
      ∀ later, let steps := tokens.stepsAt place later
        (tokens.run later).latches[place]? = some (latch.run steps) ∧
        (∀ name, (tokens.run later).names.lookup name = some place →
          (tokens.run later).isCancelled name = some (latch.run steps).isRaised) ∧
        (latch.isRaised = true → (latch.run steps).isRaised = true) ∧
        (latch.HasRung → ∀ name waiter, (name, waiter) ∈ latch.waiters →
          (Latch.resumeActs name).Sublist steps → .depart name ∉ steps →
            ∃ home, (name, home) ∈ (latch.run steps).waiters ∧ home.standing = .returned) ∧
        (∀ name, (latch.run steps).without name =
          (latch.without name).run (steps.filter fun step => step.waiter? ≠ some name)) ∧
        (latch.HasRung → (latch.run steps).standings =
          (latch.run (steps.filter fun step => !step.isOfCaller)).standings) := by
  intro tokens
  have sound : tokens.Sound := Sound.new.run acts
  refine ⟨?_, ?_, ?_, ?_, ?_⟩
  · intro name place held
    have there := List.getElem?_eq_getElem (sound.names name place held)
    exact ⟨_, there, isCancelled_eq held there⟩
  · intro name
    have held : (tokens.act (.make name)).names.lookup name = some tokens.latches.length := by
      simp only [Tokens.act, Tokens.bind, Entries.lookup_replace, if_true]
    have fresh : (tokens.act (.make name)).latches[tokens.latches.length]? = some {} := by
      simp [Tokens.act, Tokens.bind]
    exact ⟨held, isCancelled_eq held fresh⟩
  · intro name source place held
    simp only [Tokens.act, held, Tokens.bind, Entries.lookup_replace, if_true]
  · intro name later away
    have same := (SameBut.drop tokens name).run away
    exact ⟨same.latches, fun other apart => same.isCancelled apart⟩
  · intro place latch there
    have good : latch.Sound := sound.latches place latch there
    refine ⟨good, fun later => ⟨latch_run there later, ?_, ?_, ?_, ?_, ?_⟩⟩
    · exact fun name held => isCancelled_eq held (latch_run there later)
    · exact fun up => Latch.isRaised_run up _
    · intro rung name waiter present takes stays
      have due_taken := (Latch.due_sublist name waiter.standing).trans takes
      exact Latch.home_of_due good rung present due_taken stays
    · exact fun name => latch.run_without name _
    · exact fun rung => good.standings_without_callers rung _

/-! ### A token that is cancelled through its copy

A task waits for a token and falls asleep. The token is cancelled through a copy, which is then
dropped, and the task goes on. -/

/-- The task falls asleep, and the token is cancelled through its copy. -/
def cancelledThroughCopy : List Act :=
  [.make "token", .copy "copy" "token"] ++ (Latch.waitActs 0).map (.go "token") ++
    (Latch.cancelActs 0).map (.go "copy")

/-- The task goes on. -/
def taskGoesOn : List Act := (Latch.resumeActs 0).map (.go "token")

/-- The token reads that it is cancelled, and the task is home after its steps whether the copy is
dropped or not. -/
theorem no_cancellation_lost_throughCopy :
    let tokens : Tokens := run {} cancelledThroughCopy
    tokens.isCancelled "token" = some true ∧
      ∃ home, home.standing = .returned ∧
        (∃ latch : Latch, (tokens.run taskGoesOn).latches[0]? = some latch ∧
          (0, home) ∈ latch.waiters) ∧
        ((tokens.act (.drop "copy")).run taskGoesOn).latches =
          (tokens.run taskGoesOn).latches := by
  intro tokens
  obtain ⟨readings, _, _, drops, latches⟩ := no_cancellation_lost cancelledThroughCopy
  obtain ⟨latch, there, reading⟩ := readings "token" 0 (by decide)
  have cancelled : latch = ⟨true, [(0, ⟨.asleep, true⟩)], [(0, .finished)]⟩ :=
    Option.some.inj (there.symm.trans (by decide))
  subst cancelled
  obtain ⟨final, _, _, wakes, _⟩ := (latches 0 _ there).2 taskGoesOn
  have steps : tokens.stepsAt 0 taskGoesOn = Latch.resumeActs 0 := by decide
  obtain ⟨home, present, returned⟩ :=
    wakes ⟨0, rfl⟩ 0 ⟨.asleep, true⟩ (by decide) (steps ▸ List.Sublist.refl _)
      (steps ▸ by decide)
  exact ⟨reading, home, returned, ⟨_, final, present⟩,
    (drops "copy" taskGoesOn (by simp [taskGoesOn, Latch.resumeActs, Act.IsThrough])).1⟩

end Tokens

end ResilientHttp
