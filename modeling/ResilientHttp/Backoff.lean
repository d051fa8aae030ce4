import ResilientHttp.Request

/-!
# Backoff

A request with a retry strategy may make several attempts. Between two of them it waits, and every
wait is twice the one before: after `k` attempts the base delay is taken `2 ^ (k - 1)` times, where
the factor never exceeds `2 ^ 32 - 1` and the delay never exceeds the longest span
(`Backoff.factor`, `Backoff.nextDelay`).
-/

set_option autoImplicit false

namespace ResilientHttp

/-- How often a request is attempted and how long it waits in between. -/
structure Backoff where
  maxAttempts : Nat
  baseDelay : Span
  deriving DecidableEq

namespace Backoff

/-- One attempt and no delay. -/
def none : Backoff := ⟨1, Span.zero⟩

/-- The backoff of a strategy; a strategy without attempts still makes one. -/
def ofStrategy : Option RetryStrategy → Backoff
  | some strategy => ⟨max strategy.maxAttempts 1, strategy.baseDelay⟩
  | .none => Backoff.none

/-- The largest factor of a delay. -/
def maxFactor : Nat := 4294967295

/-- How often the base delay is taken after a number of attempts. -/
def factor (attempts : Nat) : Nat := min (Nat.pow 2 (attempts - 1)) maxFactor

/-- The factor as it is computed: the power only where it is small. -/
def boundedFactor (attempts : Nat) : Nat :=
  if attempts ≤ 32 then Nat.pow 2 (attempts - 1) else maxFactor

/-- The wait after a number of attempts, or nothing if no further attempt is due. -/
def nextDelay (backoff : Backoff) (attempts : Nat) : Option Span :=
  if attempts = 0 ∨ backoff.maxAttempts ≤ attempts then .none
  else some (backoff.baseDelay.scale (boundedFactor attempts))

/-- The computed factor is the stated one. -/
theorem boundedFactor_eq_factor (attempts : Nat) : boundedFactor attempts = factor attempts := by
  unfold boundedFactor factor maxFactor
  split
  · rename_i small
    have power : Nat.pow 2 (attempts - 1) ≤ Nat.pow 2 31 :=
      Nat.pow_le_pow_right (by decide) (by omega)
    have last : Nat.pow 2 31 = 2147483648 := rfl
    omega
  · have power : Nat.pow 2 32 ≤ Nat.pow 2 (attempts - 1) :=
      Nat.pow_le_pow_right (by decide) (by omega)
    have first : Nat.pow 2 32 = 4294967296 := rfl
    omega

/-- No wait before the first attempt and none after the last. -/
theorem nextDelay_eq_none_iff (backoff : Backoff) (attempts : Nat) :
    backoff.nextDelay attempts = .none ↔ attempts = 0 ∨ backoff.maxAttempts ≤ attempts := by
  unfold nextDelay
  split <;> simp_all

end Backoff

end ResilientHttp
