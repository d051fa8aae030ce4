import ResilientHttp.SizeGuard
import Mathlib.Data.List.Induction

/-!
# What a guard remembers

A guard is given notices one after another, and answers each with what it remembers of those before.
What it remembers, and so every answer and the outcome of the attempt, is a function of the whole
list of notices: the first excess (`SizeGuard.exceeded_after`) and the notices that were passed on
(`SizeGuard.forwarded_after`).

`Verdict` says what an attempt ends with, as a relation in order of precedence that mentions no
guard. A guard that has seen nothing yet gives this verdict and no other after any notices
(`SizeGuard.verdict_iff`).
-/

set_option autoImplicit false

namespace ResilientHttp

/-! ## Excess -/

namespace Notice

/-- A notice exceeds a cap if more was received, or more is expected in all. -/
def Exceeds (cap : Option Nat) (notice : Notice) : Prop :=
  ∃ bound, cap = some bound ∧
    (bound < notice.received ∨ ∃ total, notice.expected = some total ∧ bound < total)

/-- By so many bytes a notice exceeds a cap: those received if they are too many, and otherwise
those expected. -/
def ExceedsBy (cap : Option Nat) (notice : Notice) (bytes : Nat) : Prop :=
  ∃ bound, cap = some bound ∧ bound < bytes ∧
    (bytes = notice.received ∨ notice.received ≤ bound ∧ notice.expected = some bytes)

/-- The quantity by which a notice exceeds a cap, if it does. -/
def excess? (cap : Option Nat) (notice : Notice) : Option Nat :=
  cap.bind fun bound => SizeGuard.excess bound notice

theorem excess?_eq_some_iff {cap : Option Nat} {notice : Notice} {bytes : Nat} :
    notice.excess? cap = some bytes ↔ notice.ExceedsBy cap bytes := by
  cases cap with
  | none => simp [excess?, ExceedsBy]
  | some bound =>
      simp only [excess?, Option.bind_some, SizeGuard.excess, ExceedsBy, Option.some.injEq,
        exists_eq_left']
      by_cases more : bound < notice.received
      · rw [if_pos more, Option.some.injEq]
        constructor
        · rintro rfl
          exact ⟨more, .inl rfl⟩
        · rintro ⟨_, same | ⟨fewer, _⟩⟩
          · exact same.symm
          · omega
      · rw [if_neg more, Option.filter_eq_some_iff, decide_eq_true_eq]
        constructor
        · rintro ⟨announced, larger⟩
          exact ⟨larger, .inr ⟨Nat.le_of_not_lt more, announced⟩⟩
        · rintro ⟨larger, rfl | ⟨_, announced⟩⟩
          · exact absurd larger more
          · exact ⟨announced, larger⟩

/-- A notice exceeds a cap if it does so by some number of bytes. -/
theorem exceeds_iff_exists {cap : Option Nat} {notice : Notice} :
    notice.Exceeds cap ↔ ∃ bytes, notice.ExceedsBy cap bytes := by
  constructor
  · rintro ⟨bound, capped, more | ⟨total, announced, more⟩⟩
    · exact ⟨_, bound, capped, more, .inl rfl⟩
    · by_cases received : bound < notice.received
      · exact ⟨_, bound, capped, received, .inl rfl⟩
      · exact ⟨total, bound, capped, more, .inr ⟨Nat.le_of_not_lt received, announced⟩⟩
  · rintro ⟨bytes, bound, capped, more, rfl | ⟨_, announced⟩⟩
    · exact ⟨bound, capped, .inl more⟩
    · exact ⟨bound, capped, .inr ⟨bytes, announced, more⟩⟩

theorem excess?_eq_none_iff {cap : Option Nat} {notice : Notice} :
    notice.excess? cap = none ↔ ¬ notice.Exceeds cap := by
  simp [exceeds_iff_exists, ← excess?_eq_some_iff, Option.eq_none_iff_forall_ne_some]

instance (cap : Option Nat) (notice : Notice) : Decidable (notice.Exceeds cap) :=
  decidable_of_iff (notice.excess? cap ≠ none) (by rw [ne_eq, excess?_eq_none_iff, not_not])

end Notice

/-- The first of the notices that exceeds the cap exceeds it by so many bytes. -/
def IsFirstExcess (cap : Option Nat) (notices : List Notice) (bytes : Nat) : Prop :=
  ∃ before notice after, notices = before ++ notice :: after ∧
    (∀ earlier ∈ before, ¬ earlier.Exceeds cap) ∧ notice.ExceedsBy cap bytes

/-- The first excess of some notices, if there is one. -/
def firstExcess? (cap : Option Nat) (notices : List Notice) : Option Nat :=
  notices.findSome? (Notice.excess? cap)

theorem firstExcess?_eq_some_iff {cap : Option Nat} {notices : List Notice} {bytes : Nat} :
    firstExcess? cap notices = some bytes ↔ IsFirstExcess cap notices bytes := by
  simp only [firstExcess?, List.findSome?_eq_some_iff, Notice.excess?_eq_some_iff,
    Notice.excess?_eq_none_iff, IsFirstExcess]
  constructor
  · rintro ⟨before, notice, after, split, exceeds, within⟩
    exact ⟨before, notice, after, split, within, exceeds⟩
  · rintro ⟨before, notice, after, split, within, exceeds⟩
    exact ⟨before, notice, after, split, exceeds, within⟩

theorem firstExcess?_eq_none_iff {cap : Option Nat} {notices : List Notice} :
    firstExcess? cap notices = none ↔ ∀ notice ∈ notices, ¬ notice.Exceeds cap := by
  simp only [firstExcess?, List.findSome?_eq_none_iff, Notice.excess?_eq_none_iff]

theorem firstExcess?_concat (cap : Option Nat) (notices : List Notice) (notice : Notice) :
    firstExcess? cap (notices ++ [notice]) =
      (firstExcess? cap notices).or (notice.excess? cap) := by
  simp [firstExcess?, List.findSome?_append]

namespace IsFirstExcess

variable {cap : Option Nat} {notices : List Notice} {bytes : Nat}

/-- The first excess is the first excess also when more notices come. -/
theorem append (first : IsFirstExcess cap notices bytes) (later : List Notice) :
    IsFirstExcess cap (notices ++ later) bytes := by
  obtain ⟨before, notice, after, rfl, within, exceeds⟩ := first
  exact ⟨before, notice, after ++ later, by simp, within, exceeds⟩

/-- There is one first excess. -/
theorem unique {other : Nat} (first : IsFirstExcess cap notices bytes)
    (second : IsFirstExcess cap notices other) : bytes = other :=
  Option.some.inj ((firstExcess?_eq_some_iff.2 first).symm.trans (firstExcess?_eq_some_iff.2 second))

/-- The first excess is more than the cap. -/
theorem lt (first : IsFirstExcess cap notices bytes) : ∃ bound, cap = some bound ∧ bound < bytes := by
  obtain ⟨_, _, _, _, _, bound, capped, more, _⟩ := first
  exact ⟨bound, capped, more⟩

/-- Among the notices there is one that exceeds the cap. -/
theorem exists_exceeds (first : IsFirstExcess cap notices bytes) :
    ∃ notice ∈ notices, notice.Exceeds cap := by
  obtain ⟨before, notice, after, rfl, _, exceeds⟩ := first
  exact ⟨notice, by simp, Notice.exceeds_iff_exists.2 ⟨bytes, exceeds⟩⟩

end IsFirstExcess

/-! ## The verdict on an attempt -/

/-- What an attempt with these notices ends with, given what the transport, or the clock, made of
it. Each case presupposes that none before it applies. -/
inductive Verdict (cap : Option Nat) (notices : List Notice) : Outcome → Outcome → Prop
  /-- A notice exceeded the cap, and nothing else counts. -/
  | exceeded {answer : Outcome} {bytes : Nat} (first : IsFirstExcess cap notices bytes) :
      Verdict cap notices answer (.error (.tooLarge bytes))
  /-- There was no response. -/
  | failed {failure : Failure} (within : ∀ notice ∈ notices, ¬ notice.Exceeds cap) :
      Verdict cap notices (.error failure) (.error failure)
  /-- The body is larger than the cap. -/
  | oversized {response : Response} {bound : Nat}
      (within : ∀ notice ∈ notices, ¬ notice.Exceeds cap) (capped : cap = some bound)
      (larger : bound < response.bodyLength) :
      Verdict cap notices (.ok response) (.error (.tooLarge response.bodyLength))
  /-- There is a response, and nothing is wrong with its size. -/
  | answered {response : Response} (within : ∀ notice ∈ notices, ¬ notice.Exceeds cap)
      (fits : ∀ bound, cap = some bound → response.bodyLength ≤ bound) :
      Verdict cap notices (.ok response) (.ok response)

/-- **A response means that no notice and no body exceeded the cap.** -/
theorem Verdict.of_ok {cap : Option Nat} {notices : List Notice} {answer : Outcome}
    {response : Response} (verdict : Verdict cap notices answer (.ok response)) :
    answer = .ok response ∧ (∀ notice ∈ notices, ¬ notice.Exceeds cap) ∧
      ∀ bound, cap = some bound → response.bodyLength ≤ bound := by
  cases verdict with
  | answered within fits => exact ⟨rfl, within, fits⟩

namespace SizeGuard

variable {guard : SizeGuard}

/-! ## After a list of notices -/

/-- The guard after some notices. -/
def after (guard : SizeGuard) (notices : List Notice) : SizeGuard :=
  notices.foldl (fun guard notice => (guard.check notice).2) guard

/-- The notices that a guard passes on. -/
def passed (guard : SizeGuard) (notices : List Notice) : List Notice :=
  notices.filter fun notice => guard.handler.isSome && decide (¬ notice.Exceeds guard.cap)

theorem excess?_eq (guard : SizeGuard) (notice : Notice) :
    guard.excess? notice = notice.excess? guard.cap := rfl

theorem after_append (guard : SizeGuard) (earlier later : List Notice) :
    guard.after (earlier ++ later) = (guard.after earlier).after later :=
  List.foldl_append

theorem after_concat (guard : SizeGuard) (notices : List Notice) (notice : Notice) :
    guard.after (notices ++ [notice]) = ((guard.after notices).check notice).2 :=
  guard.after_append notices [notice]

/-- What a guard does with a notice that exceeds its cap. -/
theorem check_of_exceeds {notice : Notice} {bytes : Nat}
    (exceeds : notice.excess? guard.cap = some bytes) :
    guard.check notice =
      (.error (.tooLarge (guard.exceeded.getD bytes)),
        { guard with exceeded := some (guard.exceeded.getD bytes) }) := by
  simp only [check, excess?_eq, exceeds]

/-- A notice that does not exceed the cap is passed on. -/
theorem check_of_within {notice : Notice} (within : ¬ notice.Exceeds guard.cap) :
    guard.check notice = guard.forward notice := by
  simp only [check, excess?_eq, Notice.excess?_eq_none_iff.2 within]

/-- What a check changes: the memory of the first excess, and the list of what was passed on. -/
theorem check_snd (guard : SizeGuard) (notice : Notice) :
    (guard.check notice).2 =
      { guard with
        exceeded := guard.exceeded.or (notice.excess? guard.cap)
        forwarded := guard.forwarded ++ guard.passed [notice] } := by
  cases exceeds : notice.excess? guard.cap with
  | some bytes =>
      have more : notice.Exceeds guard.cap :=
        Notice.exceeds_iff_exists.2 ⟨bytes, Notice.excess?_eq_some_iff.1 exceeds⟩
      rw [check_of_exceeds exceeds]
      cases guard.exceeded <;> simp [passed, more]
  | none =>
      have within := Notice.excess?_eq_none_iff.1 exceeds
      obtain ⟨cap, handler, exceeded, forwarded⟩ := guard
      rw [check_of_within within, forward]
      cases handler <;> simp [passed, within]

/-- **What a guard remembers of some notices**: the first excess, and the notices passed on. -/
theorem after_eq (guard : SizeGuard) (notices : List Notice) :
    guard.after notices =
      { guard with
        exceeded := guard.exceeded.or (firstExcess? guard.cap notices)
        forwarded := guard.forwarded ++ guard.passed notices } := by
  induction notices using List.reverseRecOn with
  | nil => simp [after, firstExcess?, passed]
  | append_singleton front last ih =>
      rw [after_concat, check_snd, ih, firstExcess?_concat, ← Option.or_assoc]
      simp [passed, List.filter_append]

@[simp] theorem cap_after (guard : SizeGuard) (notices : List Notice) :
    (guard.after notices).cap = guard.cap := by rw [after_eq]

@[simp] theorem handler_after (guard : SizeGuard) (notices : List Notice) :
    (guard.after notices).handler = guard.handler := by rw [after_eq]

theorem exceeded_after (guard : SizeGuard) (notices : List Notice) :
    (guard.after notices).exceeded = guard.exceeded.or (firstExcess? guard.cap notices) := by
  rw [after_eq]

theorem forwarded_after (guard : SizeGuard) (notices : List Notice) :
    (guard.after notices).forwarded = guard.forwarded ++ guard.passed notices := by
  rw [after_eq]

/-- **A notice that exceeds the cap is answered with the first excess of all notices so far.** -/
theorem answer_of_exceeds (fresh : guard.exceeded = none) (notices : List Notice) {notice : Notice}
    (exceeds : notice.Exceeds guard.cap) :
    ∃ bytes, IsFirstExcess guard.cap (notices ++ [notice]) bytes ∧
      ((guard.after notices).check notice).1 = .error (.tooLarge bytes) := by
  obtain ⟨bytes, by_bytes⟩ := Notice.exceeds_iff_exists.1 exceeds
  have more : notice.excess? (guard.after notices).cap = some bytes := by
    rw [cap_after]
    exact Notice.excess?_eq_some_iff.2 by_bytes
  refine ⟨(firstExcess? guard.cap notices).getD bytes, ?_, ?_⟩
  · rw [← firstExcess?_eq_some_iff, firstExcess?_concat, Notice.excess?_eq_some_iff.2 by_bytes]
    cases firstExcess? guard.cap notices <;> rfl
  · rw [check_of_exceeds more, exceeded_after, fresh, Option.none_or]

/-- **A notice that does not exceed the cap is answered as the caller's handler answers it.** -/
theorem answer_of_within (guard : SizeGuard) (notices : List Notice) {notice : Notice}
    (within : ¬ notice.Exceeds guard.cap) :
    ((guard.after notices).check notice).1 =
      match guard.handler with
      | some handler => handler.respond (guard.forwarded ++ guard.passed notices) notice
      | none => .ok () := by
  rw [check_of_within (by rwa [cap_after]), forward, handler_after, forwarded_after]
  cases guard.handler <;> rfl

/-- The outcome of an attempt that exceeded its cap. -/
theorem finish_of_exceeded {bytes : Nat} (exceeded : guard.exceeded = some bytes)
    (answer : Outcome) : guard.finish answer = .error (.tooLarge bytes) := by
  simp only [finish, exceeded]

/-- A failure of the transport is the outcome if nothing exceeded the cap. -/
theorem finish_error (unexceeded : guard.exceeded = none) (failure : Failure) :
    guard.finish (.error failure) = .error failure := by
  simp only [finish, unexceeded]

/-- A response is looked at once more if nothing exceeded the cap so far. -/
theorem finish_ok (unexceeded : guard.exceeded = none) (response : Response) :
    guard.finish (.ok response) =
      if ∃ bound, guard.cap = some bound ∧ bound < response.bodyLength then
        .error (.tooLarge response.bodyLength)
      else .ok response := by
  cases capped : guard.cap <;> simp [finish, unexceeded, capped]

/-- **After any notices a guard that had seen nothing gives the verdict on the attempt, and no
other.** -/
theorem verdict_iff (fresh : guard.exceeded = none) (notices : List Notice)
    {answer outcome : Outcome} :
    Verdict guard.cap notices answer outcome ↔
      (guard.after notices).finish answer = outcome := by
  have remembered : (guard.after notices).exceeded = firstExcess? guard.cap notices := by
    rw [exceeded_after, fresh, Option.none_or]
  constructor
  · rintro (⟨first⟩ | ⟨within⟩ | ⟨within, capped, larger⟩ | ⟨within, fits⟩)
    · exact finish_of_exceeded (remembered.trans (firstExcess?_eq_some_iff.2 first)) answer
    · exact finish_error (remembered.trans (firstExcess?_eq_none_iff.2 within)) _
    · rw [finish_ok (remembered.trans (firstExcess?_eq_none_iff.2 within)), cap_after]
      exact if_pos ⟨_, capped, larger⟩
    · rw [finish_ok (remembered.trans (firstExcess?_eq_none_iff.2 within)), cap_after]
      refine if_neg ?_
      rintro ⟨bound, capped, larger⟩
      exact absurd (fits bound capped) (Nat.not_le.2 larger)
  · rintro rfl
    cases found : firstExcess? guard.cap notices with
    | some bytes =>
        rw [finish_of_exceeded (remembered.trans found)]
        exact .exceeded (firstExcess?_eq_some_iff.1 found)
    | none =>
        have within := firstExcess?_eq_none_iff.1 found
        rcases answer with failure | response
        · rw [finish_error (remembered.trans found)]
          exact .failed within
        · rw [finish_ok (remembered.trans found), cap_after]
          split
          · rename_i large
            obtain ⟨bound, capped, larger⟩ := large
            exact .oversized within capped larger
          · rename_i small
            exact .answered within fun bound capped =>
              Nat.le_of_not_lt fun larger => small ⟨bound, capped, larger⟩

end SizeGuard

end ResilientHttp
