import ResilientHttp.Proofs.Backoff.Words

/-!
# How long a request waits

After `k` attempts a request waits its base delay `2 ^ (k - 1)` times. Two limits bend this rule: the
factor stops at the largest word of 32 bits, which it would exceed after 33 attempts, and the wait
stops at the longest span. Below both, every wait is twice the one before, and all waits of a request
add up to one base delay less than the next wait would be (`Backoff.sum_delays_before`). At the
limits the waits stand still, and they never decrease (`Backoff.nextDelay_mono`).

The rule is stated with numbers of any size and holds of the computation in machine words as well
(`Words.wait?_eq`); `Backoff.delays_exact` puts both together.
-/

set_option autoImplicit false

namespace ResilientHttp.Backoff

/-! ## The factor -/

/-- Up to 32 attempts the factor is a power of two. -/
theorem factor_of_le {attempts : Nat} (few : attempts ≤ 32) :
    factor attempts = 2 ^ (attempts - 1) := by
  have power : 2 ^ (attempts - 1) ≤ 2 ^ 31 := Nat.pow_le_pow_right (by decide) (by omega)
  refine Nat.min_eq_left (power.trans ?_)
  decide

/-- With more attempts the factor does not become smaller. -/
theorem factor_mono {fewer more : Nat} (order : fewer ≤ more) : factor fewer ≤ factor more := by
  have power : 2 ^ (fewer - 1) ≤ 2 ^ (more - 1) :=
    Nat.pow_le_pow_right (by decide) (Nat.sub_le_sub_right order 1)
  exact min_le_min_right _ power

/-! ## The waits -/

variable {backoff : Backoff}

theorem nextDelay_eq_some_iff {attempts : Nat} {delay : Span} :
    backoff.nextDelay attempts = some delay ↔
      (0 < attempts ∧ attempts < backoff.maxAttempts) ∧
        backoff.baseDelay.scale (factor attempts) = delay := by
  unfold nextDelay
  split
  · simp only [reduceCtorEq, false_iff]
    omega
  · rw [Option.some.injEq, boundedFactor_eq_factor]
    exact (and_iff_right (by omega)).symm

/-- Waits do not become shorter. -/
theorem nextDelay_mono {fewer more : Nat} {before after : Span} (order : fewer ≤ more)
    (first : backoff.nextDelay fewer = some before) (second : backoff.nextDelay more = some after) :
    before.nanos ≤ after.nanos := by
  obtain ⟨-, rfl⟩ := nextDelay_eq_some_iff.1 first
  obtain ⟨-, rfl⟩ := nextDelay_eq_some_iff.1 second
  exact min_le_min_right _ (Nat.mul_le_mul_left _ (factor_mono order))

/-- A wait is twice the one before it, unless the factor or the wait has reached its limit. -/
theorem nextDelay_double {attempts : Nat} {before after : Span} (few : attempts ≤ 31)
    (first : backoff.nextDelay attempts = some before)
    (second : backoff.nextDelay (attempts + 1) = some after) (short : after.nanos < Span.maxNanos) :
    after.nanos = 2 * before.nanos := by
  obtain ⟨⟨positive, -⟩, rfl⟩ := nextDelay_eq_some_iff.1 first
  obtain ⟨-, rfl⟩ := nextDelay_eq_some_iff.1 second
  obtain ⟨previous, rfl⟩ : ∃ previous, attempts = previous + 1 := ⟨attempts - 1, by omega⟩
  simp only [Span.nanos_scale, factor_of_le (show previous + 1 ≤ 32 by omega),
    factor_of_le (show previous + 1 + 1 ≤ 32 by omega), Nat.add_sub_cancel, pow_succ] at short ⊢
  rw [← Nat.mul_assoc] at short ⊢
  omega

/-- The waits of a request that makes all its attempts, in order. -/
def delays (backoff : Backoff) : List Span :=
  (List.range backoff.maxAttempts).filterMap backoff.nextDelay

/-- The waits after fewer than some number of attempts add up to one base delay less than the wait
after that number, as long as neither limit is reached. -/
theorem sum_delays_before {attempts : Nat} (within : attempts ≤ backoff.maxAttempts)
    (few : attempts ≤ 33)
    (short : ∀ k < attempts, backoff.baseDelay.nanos * 2 ^ (k - 1) ≤ Span.maxNanos) :
    (((List.range attempts).filterMap backoff.nextDelay).map Span.nanos).sum =
      backoff.baseDelay.nanos * (2 ^ (attempts - 1) - 1) := by
  induction attempts with
  | zero => rfl
  | succ attempts ih =>
      have before := ih (by omega) (by omega) fun k less => short k (by omega)
      rw [List.range_succ, List.filterMap_append, List.map_append, List.sum_append, before]
      cases attempts with
      | zero => rfl
      | succ previous =>
          have wait : backoff.nextDelay (previous + 1) =
              some (backoff.baseDelay.scale (factor (previous + 1))) :=
            nextDelay_eq_some_iff.2 ⟨⟨by omega, by omega⟩, rfl⟩
          have exact : (backoff.baseDelay.scale (factor (previous + 1))).nanos =
              backoff.baseDelay.nanos * 2 ^ previous := by
            rw [Span.nanos_scale, factor_of_le (by omega)]
            exact Nat.min_eq_left (short (previous + 1) (by omega))
          have last : ([previous + 1].filterMap backoff.nextDelay).map Span.nanos =
              [backoff.baseDelay.nanos * 2 ^ previous] := by
            rw [List.filterMap_cons, wait, ← exact]
            rfl
          have positive : 0 < 2 ^ previous := Nat.two_pow_pos previous
          rw [last, List.sum_singleton, ← Nat.mul_add]
          simp only [Nat.add_sub_cancel, pow_succ]
          congr 1
          omega

/-! ## All together -/

/-- **Waits are exact.** For every number of attempts, of which at least one is made, and every base
delay: computed in machine words, no result fails to fit. There is a wait after `k` attempts exactly
if `k` is not zero and attempts remain, and it is the base delay, taken as often as the factor says,
or the longest span. Waits never decrease; below both limits each is twice the one before, and all of
them add up to the base delay taken `2 ^ (m - 1) - 1` times, where `m` is the number of attempts. -/
theorem delays_exact (maxAttempts : UInt32) (baseDelay : Span) :
    let most := max maxAttempts.toNat 1
    let backoff := Backoff.ofStrategy (some ⟨maxAttempts.toNat, baseDelay⟩)
    (∀ attempts : UInt32, Words.wait? maxAttempts (.ofSpan baseDelay) attempts =
      some ((backoff.nextDelay attempts.toNat).map WordSpan.ofSpan)) ∧
    (∀ attempts, (backoff.nextDelay attempts).map Span.nanos =
      if attempts = 0 ∨ most ≤ attempts then .none
      else some (min (baseDelay.nanos * min (2 ^ (attempts - 1)) (2 ^ 32 - 1)) Span.maxNanos)) ∧
    (∀ fewer more before after, fewer ≤ more → backoff.nextDelay fewer = some before →
      backoff.nextDelay more = some after → before.nanos ≤ after.nanos) ∧
    (∀ attempts before after, attempts ≤ 31 → backoff.nextDelay attempts = some before →
      backoff.nextDelay (attempts + 1) = some after → after.nanos < Span.maxNanos →
      after.nanos = 2 * before.nanos) ∧
    (most ≤ 33 → (∀ k < most, baseDelay.nanos * 2 ^ (k - 1) ≤ Span.maxNanos) →
      (backoff.delays.map Span.nanos).sum = baseDelay.nanos * (2 ^ (most - 1) - 1)) := by
  intro most backoff
  refine ⟨Words.wait?_eq maxAttempts baseDelay, ?_, ?_, ?_, ?_⟩
  · intro attempts
    split
    · rename_i last
      rw [(nextDelay_eq_none_iff backoff attempts).2 last]
      rfl
    · rename_i due
      have wait : backoff.nextDelay attempts = some (baseDelay.scale (factor attempts)) :=
        nextDelay_eq_some_iff.2 ⟨⟨by omega, lt_of_not_ge (not_or.1 due).2⟩, rfl⟩
      rw [wait]
      rfl
  · intro fewer more before after order first second
    exact nextDelay_mono order first second
  · intro attempts before after few first second short
    exact nextDelay_double few first second short
  · intro few short
    exact sum_delays_before (Nat.le_refl most) few short

/-- A strategy of 33 attempts, the waits of which stay below both limits. -/
theorem delays_exact_longRequest :
    let backoff := Backoff.ofStrategy (some ⟨33, .ofNanos 1000000⟩)
    let before := Span.ofNanos 1073741824000000
    let after := Span.ofNanos 2147483648000000
    (∀ k < 33, (Span.ofNanos 1000000).nanos * 2 ^ (k - 1) ≤ Span.maxNanos) ∧
      backoff.nextDelay 31 = some before ∧ backoff.nextDelay 32 = some after ∧
      before.nanos ≤ after.nanos ∧ after.nanos = 2 * before.nanos ∧
      (backoff.delays.map Span.nanos).sum = 4294967295000000 := by
  intro backoff before after
  have short : ∀ k < 33, (Span.ofNanos 1000000).nanos * 2 ^ (k - 1) ≤ Span.maxNanos := by decide
  have first : backoff.nextDelay 31 = some before := by decide
  have second : backoff.nextDelay 32 = some after := by decide
  obtain ⟨-, -, order, double, sum⟩ := delays_exact 33 (.ofNanos 1000000)
  exact ⟨short, first, second, order 31 32 _ _ (by decide) first second,
    double 31 _ _ (by decide) first second (by decide), sum (by decide) short⟩

end ResilientHttp.Backoff
