import ResilientHttp.Backoff
import Mathlib.Algebra.Order.Group.Nat
import Mathlib.Tactic.Ring

/-!
# Waits in machine words

A wait is stated with numbers of any size. In machine words a span is kept in two parts, whole
seconds in 64 bits and the nanoseconds beyond them in 32, and a wait is computed from a number of
attempts in 32 bits. Here every sum, difference, product and power has a result only if the exact
result fits into its word (`Words.word32?`, `Words.word64?`), so that nothing wraps around unseen.

Two results are replaced when they do not fit: a power by the largest word, and the seconds of a
product by the longest span (`WordSpan.checkedMul`). Nothing else ever fails to fit, whatever the
attempts and the base delay are, and what comes out is the stated wait (`Words.wait?_eq`).
-/

set_option autoImplicit false

namespace ResilientHttp

namespace Words

/-! ## Words -/

/-- A number as a word of 32 bits, if it fits. -/
def word32? (number : Nat) : Option UInt32 :=
  if number < 2 ^ 32 then some (.ofNat number) else none

/-- A number as a word of 64 bits, if it fits. -/
def word64? (number : Nat) : Option UInt64 :=
  if number < 2 ^ 64 then some (.ofNat number) else none

theorem word32?_eq_some_iff {number : Nat} {word : UInt32} :
    word32? number = some word ↔ word.toNat = number := by
  have bound := word.toNat_lt
  unfold word32?
  split
  · rename_i fits
    rw [Option.some.injEq, ← UInt32.toNat_inj, UInt32.toNat_ofNat_of_lt' fits, eq_comm]
  · simp only [reduceCtorEq, false_iff]
    omega

theorem word64?_eq_some_iff {number : Nat} {word : UInt64} :
    word64? number = some word ↔ word.toNat = number := by
  have bound := word.toNat_lt
  unfold word64?
  split
  · rename_i fits
    rw [Option.some.injEq, ← UInt64.toNat_inj, UInt64.toNat_ofNat_of_lt' fits, eq_comm]
  · simp only [reduceCtorEq, false_iff]
    omega

theorem word64?_eq_none_iff {number : Nat} : word64? number = none ↔ 2 ^ 64 ≤ number := by
  unfold word64?
  split
  · simp only [reduceCtorEq, false_iff]
    omega
  · simp only [true_iff]
    omega

/-- What does not fit does not fit either when more is added to it. -/
theorem word64?_bind_add (number more : Nat) :
    ((word64? number).bind fun word => word64? (word.toNat + more)) = word64? (number + more) := by
  cases fits : word64? number with
  | some word => rw [Option.bind_some, word64?_eq_some_iff.1 fits]
  | none =>
      have large := word64?_eq_none_iff.1 fits
      rw [Option.bind_none, eq_comm, word64?_eq_none_iff]
      omega

/-- A power of a word, by one multiplication for every step of the exponent. -/
def pow32? (base : UInt32) : Nat → Option UInt32
  | 0 => some 1
  | exponent + 1 => (pow32? base exponent).bind fun power => word32? (power.toNat * base.toNat)

/-- A power has a result exactly when it fits: the powers before it are no larger. -/
theorem pow32?_eq_some_iff {base : UInt32} (positive : 0 < base.toNat) {exponent : Nat}
    {word : UInt32} : pow32? base exponent = some word ↔ word.toNat = base.toNat ^ exponent := by
  induction exponent generalizing word with
  | zero =>
      rw [pow32?, Option.some.injEq, ← UInt32.toNat_inj, pow_zero, eq_comm]
      rfl
  | succ exponent ih =>
      simp only [pow32?, Option.bind_eq_some_iff, ih, word32?_eq_some_iff, pow_succ]
      constructor
      · rintro ⟨power, before, after⟩
        rw [after, before]
      · intro fits
        have smaller : base.toNat ^ exponent < 2 ^ 32 :=
          (Nat.le_mul_of_pos_right _ positive).trans_lt (fits ▸ word.toNat_lt)
        have before := UInt32.toNat_ofNat_of_lt' smaller
        exact ⟨.ofNat (base.toNat ^ exponent), before, by rw [fits, before]⟩

/-- How often the base delay is taken: a power of two, or the largest word. -/
def factor32 (exponent : UInt32) : UInt32 := (pow32? 2 exponent.toNat).getD 4294967295

theorem toNat_factor32 (exponent : UInt32) :
    (factor32 exponent).toNat = min (2 ^ exponent.toNat) Backoff.maxFactor := by
  have two : (2 : UInt32).toNat = 2 := rfl
  rw [factor32]
  cases power : pow32? 2 exponent.toNat with
  | some word =>
      have exact := (pow32?_eq_some_iff (by decide)).1 power
      rw [two] at exact
      have bound := word.toNat_lt
      rw [Option.getD_some, exact, Nat.min_eq_left]
      unfold Backoff.maxFactor
      omega
  | none =>
      have large : ¬ 2 ^ exponent.toNat < 2 ^ 32 := by
        intro fits
        have exact : pow32? 2 exponent.toNat = some (.ofNat (2 ^ exponent.toNat)) :=
          (pow32?_eq_some_iff (by decide)).2 (UInt32.toNat_ofNat_of_lt' fits)
        rw [power] at exact
        cases exact
      rw [Option.getD_none, Nat.min_eq_right]
      · rfl
      · unfold Backoff.maxFactor
        omega

end Words

/-! ## Spans in two words -/

/-- A span as whole seconds and the nanoseconds beyond them. -/
structure WordSpan where
  seconds : UInt64
  nanos : UInt32
  nanos_lt : nanos.toNat < 1000000000

namespace WordSpan

open Words

/-- The two words of a span. -/
def ofSpan (span : Span) : WordSpan where
  seconds := .ofNat (span.nanos / 1000000000)
  nanos := .ofNat (span.nanos % 1000000000)
  nanos_lt := by
    rw [UInt32.toNat_ofNat_of_lt' (by unfold UInt32.size; omega)]
    omega

/-- The longest span: both words are as large as they can be. -/
def longest : WordSpan := ⟨18446744073709551615, 999999999, by decide⟩

theorem ext_toNat {left right : WordSpan} (seconds : left.seconds.toNat = right.seconds.toNat)
    (nanos : left.nanos.toNat = right.nanos.toNat) : left = right := by
  obtain ⟨seconds', nanos', _⟩ := left
  obtain rfl := UInt64.toNat_inj.1 seconds
  obtain rfl := UInt32.toNat_inj.1 nanos
  rfl

theorem toNat_seconds_ofSpan (span : Span) :
    (ofSpan span).seconds.toNat = span.nanos / 1000000000 := by
  have bound := span.nanos_le
  exact UInt64.toNat_ofNat_of_lt' (by unfold UInt64.size; omega)

theorem toNat_nanos_ofSpan (span : Span) :
    (ofSpan span).nanos.toNat = span.nanos % 1000000000 :=
  UInt32.toNat_ofNat_of_lt' (by unfold UInt32.size; omega)

theorem ofSpan_longest : ofSpan (.ofNanos Span.maxNanos) = longest :=
  ext_toNat (toNat_seconds_ofSpan _) (toNat_nanos_ofSpan _)

/-- The seconds of a product and its nanoseconds. The nanoseconds are multiplied first, and what they
come to in whole seconds is carried over. The inner result is missing if the seconds do not fit; the
outer one if the nanoseconds do not. -/
def checkedMul (span : WordSpan) (factor : UInt32) : Option (Option WordSpan) :=
  (word64? (span.nanos.toNat * factor.toNat)).map fun total =>
    ((word64? (span.seconds.toNat * factor.toNat)).bind fun seconds =>
      word64? (seconds.toNat + (total / 1000000000).toNat)).map fun seconds =>
        { seconds
          nanos := (total % 1000000000).toUInt32
          nanos_lt := by
            have billion : (1000000000 : UInt64).toNat = 1000000000 := rfl
            rw [UInt64.toNat_toUInt32, UInt64.toNat_mod, billion]
            omega }

/-- The product, or the longest span if its seconds do not fit. -/
def saturatingMul (span : WordSpan) (factor : UInt32) : Option WordSpan :=
  (span.checkedMul factor).map (·.getD longest)

/-- In words a span is multiplied as it is in numbers, and the nanoseconds always fit. -/
theorem saturatingMul_ofSpan (span : Span) (factor : UInt32) :
    (ofSpan span).saturatingMul factor = some (ofSpan (span.scale factor.toNat)) := by
  have billion : (1000000000 : UInt64).toNat = 1000000000 := rfl
  have bound := factor.toNat_lt
  obtain ⟨total, fits⟩ : ∃ total, word64? (span.nanos % 1000000000 * factor.toNat) = some total := by
    have small : span.nanos % 1000000000 * factor.toNat ≤ 1000000000 * 2 ^ 32 :=
      Nat.mul_le_mul (by omega) bound.le
    exact ⟨_, if_pos (by omega)⟩
  have total_eq := word64?_eq_some_iff.1 fits
  -- The product of the nanoseconds, carried over, gives the product of the whole span.
  have parts : span.nanos * factor.toNat =
      span.nanos / 1000000000 * factor.toNat * 1000000000 +
        span.nanos % 1000000000 * factor.toNat := by
    calc span.nanos * factor.toNat
        = (span.nanos / 1000000000 * 1000000000 + span.nanos % 1000000000) * factor.toNat := by
          rw [Nat.div_add_mod']
      _ = _ := by ring
  have whole : span.nanos / 1000000000 * factor.toNat + (total / 1000000000).toNat =
      span.nanos * factor.toNat / 1000000000 := by
    rw [UInt64.toNat_div, billion, total_eq]
    omega
  have beyond : (total % 1000000000).toUInt32.toNat = span.nanos * factor.toNat % 1000000000 := by
    rw [UInt64.toNat_toUInt32, UInt64.toNat_mod, billion, total_eq]
    omega
  simp only [saturatingMul, checkedMul, toNat_nanos_ofSpan, toNat_seconds_ofSpan, fits,
    Option.map_some, word64?_bind_add, whole, Option.some.injEq]
  cases seconds : word64? (span.nanos * factor.toNat / 1000000000) with
  | some word =>
      have exact := word64?_eq_some_iff.1 seconds
      have short : (span.scale factor.toNat).nanos = span.nanos * factor.toNat := by
        have small := word.toNat_lt
        rw [Span.nanos_scale, Nat.min_eq_left]
        unfold Span.maxNanos
        omega
      refine ext_toNat ?_ ?_
      · rw [toNat_seconds_ofSpan, short, ← exact]
        rfl
      · rw [toNat_nanos_ofSpan, short, ← beyond]
        rfl
  | none =>
      have long : span.scale factor.toNat = .ofNanos Span.maxNanos := by
        refine Span.ext_nanos ?_
        have large := word64?_eq_none_iff.1 seconds
        rw [Span.nanos_scale, Span.nanos_ofNanos, Nat.min_self, Nat.min_eq_right]
        unfold Span.maxNanos
        omega
      rw [long, ofSpan_longest]
      rfl

end WordSpan

namespace Words

/-- The word before a word; there is none before zero. -/
def pred32? (word : UInt32) : Option UInt32 :=
  if word = 0 then none else some (word - 1)

theorem pred32?_eq_some {word : UInt32} (positive : word ≠ 0) :
    ∃ before, pred32? word = some before ∧ before.toNat = word.toNat - 1 := by
  have one : 1 ≤ word := UInt32.le_iff_toNat_le.2 (by
    have nonzero : word.toNat ≠ 0 := fun zero => positive (UInt32.toNat_inj.1 zero)
    exact Nat.one_le_iff_ne_zero.2 nonzero)
  exact ⟨word - 1, if_neg positive, UInt32.toNat_sub_of_le word 1 one⟩

/-- The wait after a number of attempts, or nothing if no further attempt is due. -/
def wait? (maxAttempts : UInt32) (baseDelay : WordSpan) (attempts : UInt32) :
    Option (Option WordSpan) :=
  if attempts = 0 ∨ (if maxAttempts = 0 then 1 else maxAttempts) ≤ attempts then some none
  else
    (pred32? attempts).bind fun exponent =>
      (baseDelay.saturatingMul (factor32 exponent)).map some

/-- **Waits in machine words.** The computation in words never fails, and its result is the stated
wait. -/
theorem wait?_eq (maxAttempts : UInt32) (baseDelay : Span) (attempts : UInt32) :
    wait? maxAttempts (.ofSpan baseDelay) attempts =
      some (((Backoff.ofStrategy (some ⟨maxAttempts.toNat, baseDelay⟩)).nextDelay
        attempts.toNat).map WordSpan.ofSpan) := by
  have zero : attempts = 0 ↔ attempts.toNat = 0 := UInt32.toNat_inj.symm
  have bound : (if maxAttempts = 0 then 1 else maxAttempts) ≤ attempts ↔
      max maxAttempts.toNat 1 ≤ attempts.toNat := by
    have one : (1 : UInt32).toNat = 1 := rfl
    have none : maxAttempts = 0 ↔ maxAttempts.toNat = 0 := UInt32.toNat_inj.symm
    rw [UInt32.le_iff_toNat_le]
    split
    · rw [one, none.1 ‹_›]
      rfl
    · rw [Nat.max_eq_left (Nat.one_le_iff_ne_zero.2 (mt none.2 ‹_›))]
  unfold wait? Backoff.nextDelay Backoff.ofStrategy
  by_cases last : attempts = 0 ∨ (if maxAttempts = 0 then 1 else maxAttempts) ≤ attempts
  · rw [if_pos last, if_pos (last.imp zero.1 bound.1)]
    rfl
  · obtain ⟨exponent, before, number⟩ := pred32?_eq_some (not_or.1 last).1
    have factor : (factor32 exponent).toNat = Backoff.boundedFactor attempts.toNat := by
      rw [toNat_factor32, Backoff.boundedFactor_eq_factor, number]
      rfl
    rw [if_neg last, if_neg (mt (Or.imp zero.2 bound.2) last), before, Option.bind_some,
      WordSpan.saturatingMul_ofSpan, factor]
    rfl

end Words

end ResilientHttp
