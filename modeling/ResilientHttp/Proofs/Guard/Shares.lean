import ResilientHttp.Guards
import ResilientHttp.Proofs.Guard.Excess
import ResilientHttp.Proofs.Lists

/-!
# A guard and all its shares

A notice may be given to a guard through any of its shares: the first one, a copy, a copy of a copy,
or the handler that a transport was given. Here it is shown that the share makes no difference. All
notices that reach a guard, in the order in which they do and whatever the shares
(`Guards.tellings`), are answered as one guard would answer them that nobody else holds, and the
guard remembers them so (`Guards.Remembers`); what reaches other guards is no matter.

With that the laws of a single guard are laws of all its shares (`Guards.shares_agree`).
-/

set_option autoImplicit false

namespace ResilientHttp

/-- A notice that a guard was given, and the answer to it. -/
structure Telling where
  notice : Notice
  answer : Except Failure Unit

/-- The guard that a share stands for, as it was when it was new. -/
def GuardShare.newGuard (share : GuardShare) : SizeGuard :=
  { cap := share.cap, handler := share.handler }

/-- A new guard has seen no excess. -/
theorem GuardShare.exceeded_newGuard (share : GuardShare) : share.newGuard.exceeded = none := rfl

/-- A new guard passes on what does not exceed its cap, if it has somebody to pass it on to. -/
theorem GuardShare.passed_newGuard (share : GuardShare) (notices : List Notice) :
    share.newGuard.passed notices =
      match share.handler with
      | some _ => notices.filter fun notice => ¬ notice.Exceeds share.cap
      | none => [] := by
  obtain ⟨cap, handler, place⟩ := share
  cases handler with
  | none => simp [SizeGuard.passed, newGuard]
  | some handler => rfl

namespace Guards

variable {guards : Guards} {share other : GuardShare} {notice : Notice}

/-! ## What reaches a guard -/

/-- What an act tells the guard with the given memory. -/
def telling? (guards : Guards) (place : Nat) : Act → Option Telling
  | .tell name notice =>
      (guards.shares[name]?.filter fun share => share.place == place).map fun share =>
        { notice, answer := (guards.tell share notice).1 }
  | _ => none

/-- What a run tells the guard with the given memory, through whatever shares. -/
def tellings (guards : Guards) (place : Nat) : List Act → List Telling
  | [] => []
  | act :: rest => (guards.telling? place act).toList ++ (guards.act act).tellings place rest

theorem run_concat (guards : Guards) (front : List Act) (last : Act) :
    guards.run (front ++ [last]) = (guards.run front).act last := by
  simp [run]

theorem tellings_concat (guards : Guards) (place : Nat) (front : List Act) (last : Act) :
    guards.tellings place (front ++ [last]) =
      guards.tellings place front ++ ((guards.run front).telling? place last).toList := by
  induction front generalizing guards with
  | nil => simp [tellings, run]
  | cons act rest ih =>
      rw [List.cons_append, tellings, ih, tellings, List.append_assoc]
      rfl

/-! ## What an act does to a memory -/

/-- The guard that a share stands for depends on the memory alone. -/
theorem guard_eq (guards : Guards) (share : GuardShare) :
    guards.guard share =
      { share.newGuard with
        exceeded := (guards.memory share.place).exceeded
        forwarded := (guards.memory share.place).forwarded } := rfl

theorem guard_congr {left right : Guards}
    (same : left.memory share.place = right.memory share.place) :
    left.guard share = right.guard share := by
  rw [guard_eq, guard_eq, same]

/-- Making a guard touches no memory that is there. -/
theorem memory_make (guards : Guards) (cap : Option Nat) (handler : Option Handler) {place : Nat}
    (there : place < guards.memories.length) :
    (guards.make cap handler).memory place = guards.memory place := by
  simp [make, memory, List.getElem?_append_left there]

/-- A new guard remembers nothing. -/
theorem memory_make_self (guards : Guards) (cap : Option Nat) (handler : Option Handler) :
    (guards.make cap handler).memory guards.memories.length = {} := by
  simp [make, memory]

/-- A notice is written into the memory of the share that is given it. -/
theorem memory_tell (there : share.place < guards.memories.length) (notice : Notice) :
    (guards.tell share notice).2.memory share.place =
      { exceeded := ((guards.guard share).check notice).2.exceeded
        forwarded := ((guards.guard share).check notice).2.forwarded } := by
  simp [tell, memory, there]

/-- A notice is written into no other memory. -/
theorem memory_tell_of_ne (notice : Notice) {place : Nat} (apart : place ≠ share.place) :
    (guards.tell share notice).2.memory place = guards.memory place := by
  simp [tell, memory, List.getElem?_set_ne apart.symm]

/-- Every share of a guard sees what was told to one of them. -/
theorem guard_tell (there : share.place < guards.memories.length) (notice : Notice)
    (together : other.place = share.place) (same : other.newGuard = share.newGuard) :
    (guards.tell share notice).2.guard other = ((guards.guard share).check notice).2 := by
  rw [guard_eq, together, memory_tell there, SizeGuard.check_snd, same]
  rfl

/-- The handler that a transport is given is a share of the same guard. -/
theorem eq_of_mem_handler? (lent : other ∈ guards.handler? share) : other = share := by
  rw [handler?, Option.mem_def] at lent
  split at lent
  · exact (Option.some.inj lent).symm
  · cases lent

theorem handler?_eq_none_iff (guards : Guards) (share : GuardShare) :
    guards.handler? share = none ↔ share.cap = none ∧ share.handler = none := by
  rw [handler?, SizeGuard.isWatching, guard_eq, ite_eq_right_iff]
  simp [GuardShare.newGuard, Option.isSome_iff_ne_none, not_or]

/-! ## The books of the guards -/

/-- The guards are as what was told to each of them wants it. -/
structure Remembers (guards : Guards) (told : Nat → List Telling) : Prop where
  /-- Every share has a memory. -/
  placed : ∀ share ∈ guards.shares, share.place < guards.memories.length
  /-- Shares with one memory are shares of one guard. -/
  agree : ∀ share ∈ guards.shares, ∀ other ∈ guards.shares, share.place = other.place →
    share.newGuard = other.newGuard
  /-- Nobody was told anything who is not there. -/
  untold : ∀ place, guards.memories.length ≤ place → told place = []
  /-- A guard is as it would be if it had been told everything directly. -/
  kept : ∀ share ∈ guards.shares,
    guards.guard share = share.newGuard.after ((told share.place).map Telling.notice)
  /-- A guard answered as it would have answered then. -/
  answered : ∀ share ∈ guards.shares, ∀ before telling after,
    told share.place = before ++ telling :: after →
      telling.answer =
        ((share.newGuard.after (before.map Telling.notice)).check telling.notice).1

namespace Remembers

variable {told : Nat → List Telling}

theorem empty : Remembers {} fun _ => [] where
  placed := by simp
  agree := by simp
  untold := by simp
  kept := by simp
  answered := by simp

/-- Making a guard tells nobody anything. -/
theorem make (remembers : guards.Remembers told) (cap : Option Nat) (handler : Option Handler) :
    (guards.make cap handler).Remembers told where
  placed share member := by
    simp only [Guards.make, List.length_append, List.length_singleton]
    rcases List.mem_append.1 member with old | new
    · exact Nat.lt_succ_of_lt (remembers.placed share old)
    · rw [List.mem_singleton.1 new]
      exact Nat.lt_succ_self _
  agree share member other present together := by
    -- The memory of the new share is behind the memories of all others.
    rcases List.mem_append.1 member with old | new <;>
      rcases List.mem_append.1 present with former | fresh
    · exact remembers.agree share old other former together
    · rw [List.mem_singleton.1 fresh] at together
      exact absurd together (Nat.ne_of_lt (remembers.placed share old))
    · rw [List.mem_singleton.1 new] at together
      exact absurd together.symm (Nat.ne_of_lt (remembers.placed other former))
    · rw [List.mem_singleton.1 new, List.mem_singleton.1 fresh]
  untold place beyond := by
    refine remembers.untold place (Nat.le_of_succ_le ?_)
    simpa [Guards.make] using beyond
  kept share member := by
    rcases List.mem_append.1 member with old | new
    · rw [guard_congr (guards.memory_make cap handler (remembers.placed share old))]
      exact remembers.kept share old
    · rw [List.mem_singleton.1 new, guard_eq, guards.memory_make_self cap handler,
        remembers.untold _ (Nat.le_refl _)]
      rfl
  answered share member := by
    rcases List.mem_append.1 member with old | new
    · exact remembers.answered share old
    · rw [List.mem_singleton.1 new, remembers.untold _ (Nat.le_refl _)]
      intro before telling after split
      simp at split

/-- One more share of a guard changes nothing. -/
theorem copy (remembers : guards.Remembers told) (member : share ∈ guards.shares) :
    (guards.copy share).Remembers told := by
  have known : ∀ other ∈ (guards.copy share).shares, other ∈ guards.shares := by
    intro other present
    rcases List.mem_append.1 present with old | new
    · exact old
    · rw [List.mem_singleton.1 new]
      exact member
  exact
    { placed := fun other present => remembers.placed other (known other present)
      agree := fun one present two there =>
        remembers.agree one (known one present) two (known two there)
      untold := remembers.untold
      kept := fun other present => remembers.kept other (known other present)
      answered := fun other present => remembers.answered other (known other present) }

/-- A notice that is given to one share is told to its guard. -/
theorem tell (remembers : guards.Remembers told) (member : share ∈ guards.shares)
    (notice : Notice) :
    (guards.tell share notice).2.Remembers fun place =>
      told place ++
        if share.place = place then [{ notice, answer := (guards.tell share notice).1 }] else []
    where
  placed other present := by
    simpa [Guards.tell] using remembers.placed other present
  agree := remembers.agree
  untold place beyond := by
    have outside : guards.memories.length ≤ place := by simpa [Guards.tell] using beyond
    have apart : share.place ≠ place :=
      Nat.ne_of_lt (Nat.lt_of_lt_of_le (remembers.placed share member) outside)
    simp [remembers.untold place outside, apart]
  kept other present := by
    by_cases together : share.place = other.place
    · rw [guard_tell (remembers.placed share member) notice together.symm
        (remembers.agree other present share member together.symm), remembers.kept share member,
        if_pos together, together, List.map_append, List.map_singleton, SizeGuard.after_concat,
        remembers.agree share member other present together]
    · rw [guard_congr (memory_tell_of_ne notice (Ne.symm together)), if_neg together,
        List.append_nil]
      exact remembers.kept other present
  answered other present before telling after split := by
    by_cases together : share.place = other.place
    · rw [if_pos together] at split
      -- The notice is the newest one, or it was told before.
      obtain ⟨rfl, rfl, rfl⟩ | ⟨front, rfl, old⟩ := Splits.concat_eq_iff.1 split
      · simp only [Guards.tell]
        rw [remembers.kept share member, together,
          remembers.agree share member other present together]
      · exact remembers.answered other present before telling front old
    · rw [if_neg together, List.append_nil] at split
      exact remembers.answered other present before telling after split

/-- **Every act keeps the books.** -/
theorem act (remembers : guards.Remembers told) (act : Act) :
    (guards.act act).Remembers fun place => told place ++ (guards.telling? place act).toList := by
  cases act with
  | make cap handler => simpa [Guards.act, telling?] using remembers.make cap handler
  | copy name =>
      simp only [Guards.act, telling?, Option.toList_none, List.append_nil]
      cases found : guards.shares[name]? with
      | none => exact remembers
      | some share => exact remembers.copy (List.mem_of_getElem? found)
  | lend name =>
      simp only [Guards.act, telling?, Option.toList_none, List.append_nil]
      cases found : guards.shares[name]?.bind guards.handler? with
      | none => exact remembers
      | some lent =>
          obtain ⟨share, named, given⟩ := Option.bind_eq_some_iff.1 found
          obtain rfl := eq_of_mem_handler? given
          exact remembers.copy (List.mem_of_getElem? named)
  | tell name notice =>
      simp only [Guards.act, telling?]
      cases found : guards.shares[name]? with
      | none => simpa using remembers
      | some share =>
          have newest : ∀ place, ((Option.filter (fun share => share.place == place) (some share)).map
              fun share => Telling.mk notice (guards.tell share notice).1).toList =
              if share.place = place then [{ notice, answer := (guards.tell share notice).1 }]
              else [] := by
            intro place
            by_cases here : share.place = place <;> simp [Option.filter_some, here]
          simp only [newest]
          exact remembers.tell (List.mem_of_getElem? found) notice

/-- A share gives the verdict on the attempt. -/
theorem finish_iff (remembers : guards.Remembers told) (member : share ∈ guards.shares)
    {answer outcome : Outcome} :
    guards.finish share answer = outcome ↔
      Verdict share.cap ((told share.place).map Telling.notice) answer outcome := by
  rw [Guards.finish, remembers.kept share member]
  exact (SizeGuard.verdict_iff share.exceeded_newGuard _).symm

/-- A notice that exceeds the cap was answered with the first excess. -/
theorem answer_of_exceeds (remembers : guards.Remembers told) (member : share ∈ guards.shares)
    {telling : Telling} (given : telling ∈ told share.place)
    (exceeds : telling.notice.Exceeds share.cap) :
    ∃ bytes bound, IsFirstExcess share.cap ((told share.place).map Telling.notice) bytes ∧
      share.cap = some bound ∧ bound < bytes ∧ telling.answer = .error (.tooLarge bytes) := by
  obtain ⟨before, after, split⟩ := List.append_of_mem given
  obtain ⟨bytes, first, answer⟩ :=
    SizeGuard.answer_of_exceeds share.exceeded_newGuard (before.map Telling.notice) exceeds
  obtain ⟨bound, capped, more⟩ := first.lt
  refine ⟨bytes, bound, ?_, capped, more, ?_⟩
  · have whole : IsFirstExcess share.cap _ bytes := first.append (after.map Telling.notice)
    simpa [split] using whole
  · exact (remembers.answered share member before telling after split).trans answer

/-- Another notice was answered by the caller's handler, which knows the others like it. -/
theorem answer_of_within (remembers : guards.Remembers told) (member : share ∈ guards.shares)
    {before after : List Telling} {telling : Telling}
    (split : told share.place = before ++ telling :: after)
    (within : ¬ telling.notice.Exceeds share.cap) :
    telling.answer =
      match share.handler with
      | some handler =>
          handler.respond
            ((before.map Telling.notice).filter fun notice => ¬ notice.Exceeds share.cap)
            telling.notice
      | none => .ok () := by
  rw [remembers.answered share member before telling after split,
    SizeGuard.answer_of_within share.newGuard _ within, share.passed_newGuard]
  cases handled : share.handler <;> simp [GuardShare.newGuard, handled]

/-- The caller's handler was given the notices that do not exceed the cap. -/
theorem forwarded_eq (remembers : guards.Remembers told) (member : share ∈ guards.shares) :
    (guards.memory share.place).forwarded =
      match share.handler with
      | some _ =>
          ((told share.place).map Telling.notice).filter fun notice => ¬ notice.Exceeds share.cap
      | none => [] := by
  have kept := congrArg SizeGuard.forwarded (remembers.kept share member)
  rw [SizeGuard.forwarded_after, share.passed_newGuard] at kept
  exact kept

end Remembers

/-- The books of all guards after a run. -/
theorem remembers_run (acts : List Act) :
    (run {} acts).Remembers fun place => tellings {} place acts := by
  induction acts using List.reverseRecOn with
  | nil => exact .empty
  | append_singleton front last ih =>
      rw [run_concat]
      simp only [tellings_concat]
      exact ih.act last

/-! ## The law of shared guards -/

/-- **All shares of a guard agree on what was too large.** After any run of acts on guards and their
shares, consider any share, and all that its guard was told through whatever shares, in order.

* There is one first excess for all notices that exceed the cap, if any does; it is more than the
  cap, and each of these notices was answered with it. Without a cap there is none.
* Each other notice, before or after an excess, was answered as the caller's handler answers it, or
  let pass if there is no handler. The handler was given exactly these notices, once and in order.
* The share gives the verdict on the attempt whatever the transport made of it. So it gives a
  response only if no notice and no body exceeded the cap.
* The transport is given a handler unless there is neither a cap nor a caller's handler.
* Copies and handlers are shares of the same guard, and a new guard shares with nobody. -/
theorem shares_agree (acts : List Act) :
    let guards : Guards := run {} acts
    ∀ name share, guards.shares[name]? = some share →
      let told := tellings {} share.place acts
      (∀ telling ∈ told, telling.notice.Exceeds share.cap →
        ∃ bytes bound, IsFirstExcess share.cap (told.map Telling.notice) bytes ∧
          share.cap = some bound ∧ bound < bytes ∧ telling.answer = .error (.tooLarge bytes)) ∧
      (∀ before telling after, told = before ++ telling :: after →
        ¬ telling.notice.Exceeds share.cap →
          telling.answer =
            match share.handler with
            | some handler =>
                handler.respond
                  ((before.map Telling.notice).filter fun notice => ¬ notice.Exceeds share.cap)
                  telling.notice
            | none => .ok ()) ∧
      (guards.memory share.place).forwarded =
        (match share.handler with
        | some _ => (told.map Telling.notice).filter fun notice => ¬ notice.Exceeds share.cap
        | none => []) ∧
      (∀ answer outcome, guards.finish share answer = outcome ↔
        Verdict share.cap (told.map Telling.notice) answer outcome) ∧
      (∀ answer response, guards.finish share answer = .ok response →
        answer = .ok response ∧ (∀ telling ∈ told, ¬ telling.notice.Exceeds share.cap) ∧
          ∀ bound, share.cap = some bound → response.bodyLength ≤ bound) ∧
      (guards.handler? share = none ↔ share.cap = none ∧ share.handler = none) ∧
      (guards.act (.copy name)).shares = guards.shares ++ [share] ∧
      (guards.act (.lend name)).shares = guards.shares ++ (guards.handler? share).toList ∧
      (∀ lent ∈ guards.handler? share, lent = share) ∧
      ∀ cap handler, ∃ place, (guards.act (.make cap handler)).shares =
        guards.shares ++ [({ cap, handler, place } : GuardShare)] ∧ place ≠ share.place := by
  intro guards name share found told
  have member : share ∈ guards.shares := List.mem_of_getElem? found
  have books : guards.Remembers fun place => tellings {} place acts := remembers_run acts
  refine ⟨fun _ => books.answer_of_exceeds member, fun _ _ _ => books.answer_of_within member,
    books.forwarded_eq member, fun _ _ => books.finish_iff member, ?_,
    guards.handler?_eq_none_iff share, ?_, ?_, fun _ => eq_of_mem_handler?, ?_⟩
  · intro answer response finished
    obtain ⟨same, within, fits⟩ := ((books.finish_iff member).1 finished).of_ok
    refine ⟨same, fun telling given => ?_, fits⟩
    exact within telling.notice (List.mem_map_of_mem given)
  · simp only [act, found]
    rfl
  · simp only [act, found, Option.bind_some]
    cases given : guards.handler? share with
    | none => simp
    | some other => simp [copy, eq_of_mem_handler? given]
  · intro cap handler
    exact ⟨guards.memories.length, rfl, (Nat.ne_of_lt (books.placed share member)).symm⟩

/-! ### Three shares of one guard

A guard that allows ten bytes is copied, and a handler is made of the copy. The handler is told of a
hundred bytes, the copy of four bytes out of fifty, and then the first share of six bytes. -/

/-- The three shares are told of progress. -/
def threeShares : List Act :=
  [.make (some 10) (some .silent), .copy 0, .lend 1, .tell 2 ⟨100, none⟩, .tell 1 ⟨4, some 50⟩,
    .tell 0 ⟨6, none⟩]

/-- The second excess is answered with the first one, the notice after them is passed on alone, and
the first share ends the attempt for what the handler was told. -/
theorem shares_agree_threeShares :
    ∃ share, (run {} threeShares).shares[0]? = some share ∧
      (∀ telling ∈ tellings {} share.place threeShares, telling.notice = ⟨4, some 50⟩ →
        telling.answer = .error (.tooLarge 100)) ∧
      ((run {} threeShares).memory share.place).forwarded = [⟨6, none⟩] ∧
      (run {} threeShares).finish share (.ok {}) = .error (.tooLarge 100) := by
  obtain ⟨excesses, _, forwarded, verdicts, _⟩ :=
    shares_agree threeShares 0 { cap := some 10, handler := some .silent, place := 0 } rfl
  have first : IsFirstExcess (some 10)
      ((tellings {} 0 threeShares).map Telling.notice) 100 :=
    ⟨[], ⟨100, none⟩, [⟨4, some 50⟩, ⟨6, none⟩], rfl, by simp, 10, rfl, by decide, .inl rfl⟩
  refine ⟨_, rfl, fun telling given second => ?_, forwarded, (verdicts _ _).2 (.exceeded first)⟩
  obtain ⟨bytes, _, least, _, _, answer⟩ :=
    excesses telling given (second ▸ ⟨10, rfl, .inr ⟨50, rfl, by decide⟩⟩)
  rw [answer, first.unique least]

end Guards

end ResilientHttp
