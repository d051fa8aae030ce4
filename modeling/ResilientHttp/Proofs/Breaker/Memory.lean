import ResilientHttp.Proofs.Breaker.Closing
import Mathlib.Data.List.Count

/-!
# What the memory of a breaker holds

The answers of a breaker rest on the shape of its memory. Dropping a front part drops all that is
aged only in a list that is in order, and the memory stays small only if every operation forgets the
hosts of which nothing is left. A table with one entry for each host, and none without moments, is
tidy (`Tidy`). Every call keeps the memory tidy, so after any run its entries are what is remembered
of the hosts (`Tidy.mem_iff`), which the recorded failures determine.

Right after a failure the breaker stores that failure and the young ones before it, and nothing else
(`Breaker.Remembers.perm_recordFailure`). So a client that meets ever new hosts stores no more than
what failed of late. A question prunes its own host only, and forgets it if nothing of it is young.
`Breaker.memory_bounded` says both, and that the memory is in order after every run.
-/

set_option autoImplicit false

namespace ResilientHttp

namespace Breaker

/-! ## Tidy tables -/

/-- A table with one entry for each host, and none without moments. -/
structure Tidy (failures : List (HostKey × List Nat)) : Prop where
  keys : (failures.map (·.1)).Nodup
  filled : ∀ entry ∈ failures, entry.2 ≠ []

namespace Tidy

variable {failures : List (HostKey × List Nat)} {breaker : Breaker}

/-- Storing moments of a host keeps a table tidy, for without moments the host goes. -/
theorem store (tidy : Tidy failures) (host : HostKey) (moments : List Nat) :
    Tidy (store failures host moments) where
  keys := keys_store tidy.keys host moments
  filled := by
    intro entry member
    unfold Breaker.store at member
    split at member
    · exact tidy.filled entry (List.mem_filter.1 member).1
    · next something =>
        rcases List.mem_append.1 member with other | new
        · exact tidy.filled entry (List.mem_filter.1 other).1
        · rw [List.mem_singleton.1 new]
          simpa using something

/-- A sweep keeps a table tidy, for the hosts of which nothing is left go. -/
theorem sweep (tidy : Tidy failures) (strategy : BreakerStrategy) (now : Nat) :
    Tidy (sweep strategy now failures) where
  keys := keys_sweep tidy.keys strategy now
  filled := fun _ member => by simpa using (List.mem_filter.1 member).2

/-- The entries of a tidy memory are what is remembered of the hosts. -/
theorem mem_iff (tidy : Tidy breaker.failures) {host : HostKey} {moments : List Nat} :
    (host, moments) ∈ breaker.failures ↔ moments ≠ [] ∧ breaker.remembered host = moments := by
  unfold remembered
  constructor
  · intro member
    refine ⟨tidy.filled _ member, ?_⟩
    rw [(Entries.mem_iff_lookup tidy.keys).1 member]
    rfl
  · rintro ⟨something, found⟩
    rw [Entries.mem_iff_lookup tidy.keys]
    cases entry : breaker.failures.lookup host with
    | none =>
        rw [entry] at found
        exact absurd found.symm something
    | some held =>
        rw [entry] at found
        exact congrArg some found

/-- What is stored under a host is what is remembered of it. -/
theorem remembered_eq (tidy : Tidy breaker.failures) {entry : HostKey × List Nat}
    (member : entry ∈ breaker.failures) : breaker.remembered entry.1 = entry.2 :=
  (tidy.mem_iff.1 member).2

/-- A host has an entry exactly if something is remembered of it. -/
theorem mem_keys_iff (tidy : Tidy breaker.failures) {host : HostKey} :
    host ∈ breaker.failures.map (·.1) ↔ breaker.remembered host ≠ [] := by
  constructor
  · intro member
    obtain ⟨entry, stored, rfl⟩ := List.mem_map.1 member
    rw [tidy.remembered_eq stored]
    exact tidy.filled entry stored
  · intro something
    exact List.mem_map.2 ⟨_, tidy.mem_iff.2 ⟨something, rfl⟩, rfl⟩

end Tidy

/-- The host that a call is about. -/
def Call.host : Call → HostKey
  | .recordFailure host => host
  | .failureCount host => host
  | .state host => host
  | .isOpen host => host

/-- All questions leave the same: they count the failures of their host. -/
theorem call_of_isQuestion (breaker : Breaker) (now : Nat) {call : Call}
    (asks : call.isQuestion = true) :
    breaker.call now call = (breaker.failureCount call.host now).2 := by
  have state : ∀ host, (breaker.state host now).2 = (breaker.failureCount host now).2 := by
    intro host
    cases same : breaker.strategy <;> simp only [Breaker.state, Breaker.failureCount, same]
  cases call with
  | recordFailure host => cases asks
  | failureCount host => rfl
  | state host => exact state host
  | isOpen host => exact state host

/-- Without a strategy a call leaves everything as it is. -/
theorem call_of_no_strategy {breaker : Breaker} (none : breaker.strategy = none) (now : Nat)
    (call : Call) : breaker.call now call = breaker := by
  cases call <;> simp only [Breaker.call, recordFailure, failureCount, state, isOpen, none]

theorem replay_of_no_strategy {breaker : Breaker} (none : breaker.strategy = none)
    (calls : List (Nat × Call)) : breaker.replay calls = breaker := by
  induction calls with
  | nil => rfl
  | cons entry rest ih => exact (congrArg (replay · rest) (call_of_no_strategy none _ _)).trans ih

theorem replay_concat (breaker : Breaker) (calls : List (Nat × Call)) (now : Nat) (call : Call) :
    breaker.replay (calls ++ [(now, call)]) = (breaker.replay calls).call now call :=
  List.foldl_append

/-- Every call keeps the memory tidy. -/
theorem tidy_call {breaker : Breaker} (tidy : Tidy breaker.failures) (now : Nat) (call : Call) :
    Tidy (breaker.call now call).failures := by
  cases same : breaker.strategy with
  | none => rwa [call_of_no_strategy same]
  | some strategy =>
      cases asks : call.isQuestion with
      | true =>
          rw [call_of_isQuestion breaker now asks, failures_failureCount same]
          exact tidy.store _ _
      | false =>
          cases call with
          | recordFailure host =>
              rw [Breaker.call, failures_recordFailure same]
              exact (tidy.sweep strategy now).store _ _
          | failureCount host | state host | isOpen host => cases asks

/-- After any run the memory is tidy. -/
theorem tidy_replay (strategy : Option BreakerStrategy) (calls : List (Nat × Call)) :
    Tidy ((Breaker.new strategy).replay calls).failures := by
  induction calls using List.reverseRecOn with
  | nil => exact ⟨List.nodup_nil, nofun⟩
  | append_singleton front last ih =>
      rw [replay_concat]
      exact tidy_call ih last.1 last.2

/-! ## All stored moments and all recorded failures -/

/-- The moments in a table, each with its host. -/
def hostMoments (failures : List (HostKey × List Nat)) : List (HostKey × Nat) :=
  failures.flatMap fun entry => entry.2.map (entry.1, ·)

/-- The failures that calls recorded, each with its host. -/
def hostFailures (calls : List (Nat × Call)) : List (HostKey × Nat) :=
  calls.filterMap fun entry => if entry.2.isQuestion then none else some (entry.2.host, entry.1)

/-- A moment is stored for a host as often as it is found in the moments of that host. -/
theorem count_hostMoments {failures : List (HostKey × List Nat)}
    (distinct : (failures.map (·.1)).Nodup) (host : HostKey) (moment : Nat) :
    (hostMoments failures).count (host, moment) =
      ((failures.lookup host).getD []).count moment := by
  induction failures with
  | nil => rfl
  | cons entry rest ih =>
      obtain ⟨key, moments⟩ := entry
      rw [List.map_cons, List.nodup_cons] at distinct
      have others := ih distinct.2
      rw [hostMoments] at others ⊢
      rw [List.flatMap_cons, List.count_append, others, List.lookup_cons]
      have own : (moments.map (key, ·)).count (host, moment) =
          if host = key then moments.count moment else 0 := by
        split
        · next same =>
            subst same
            exact List.count_map_of_injective moments (host, ·)
              (fun _ _ equal => (Prod.mk.inj equal).2) moment
        · next differ =>
            rw [List.count_eq_zero, List.mem_map]
            rintro ⟨_, -, same⟩
            exact differ (congrArg Prod.fst same).symm
      by_cases same : host = key
      · subst same
        -- No later entry of the same host adds to what its own entry has.
        rw [own, if_pos rfl, lookup_eq_none_of_not_mem distinct.1, beq_self_eq_true]
        rfl
      · rw [own, if_neg same, Nat.zero_add, beq_eq_false_iff_ne.2 same]

/-- A failure was recorded for a host as often as it stands in the log of that host. -/
theorem count_hostFailures (calls : List (Nat × Call)) (host : HostKey) (moment : Nat) :
    (hostFailures calls).count (host, moment) = (FailureLog.ofCalls calls host).count moment := by
  rw [hostFailures, FailureLog.ofCalls, List.count_filterMap, List.count_filterMap]
  refine List.countP_congr fun entry _ => ?_
  obtain ⟨now, call⟩ := entry
  cases call with
  | recordFailure other => by_cases same : other = host <;> simp [Call.isQuestion, Call.host, same]
  | failureCount other | state other | isOpen other => simp [Call.isQuestion]

end Breaker

/-! ## What is stored after a call -/

/-- The failures of a host that are younger than the age. -/
def FailureLog.young (log : FailureLog) (strategy : BreakerStrategy) (host : HostKey) (now : Nat) :
    List Nat :=
  (log host).filter fun moment => !Breaker.isAged strategy now moment

theorem FailureLog.mem_young {log : FailureLog} {strategy : BreakerStrategy} {host : HostKey}
    {now moment : Nat} :
    moment ∈ log.young strategy host now ↔
      moment ∈ log host ∧ now - moment < strategy.age.nanos := by
  rw [FailureLog.young, List.mem_filter, Breaker.not_isAged, decide_eq_true_eq]

namespace Breaker

/-- Of the failures of all hosts those are young that are young failures of their hosts. -/
theorem count_filter_hostFailures (calls : List (Nat × Call)) (strategy : BreakerStrategy)
    (now : Nat) (host : HostKey) (moment : Nat) :
    ((hostFailures calls).filter fun failure => !isAged strategy now failure.2).count
        (host, moment) =
      ((FailureLog.ofCalls calls).young strategy host now).count moment := by
  rw [FailureLog.young]
  cases aged : isAged strategy now moment with
  | true =>
      rw [List.count_eq_zero.2, List.count_eq_zero.2] <;> simp [aged]
  | false =>
      rw [List.count_filter (by simp [aged]), List.count_filter (by simp [aged]),
        count_hostFailures]

namespace Remembers

variable {breaker : Breaker} {log : FailureLog} {now : Nat} {strategy : BreakerStrategy}

/-- Nothing that is remembered comes from the future. -/
theorem past_remembered (remembers : breaker.Remembers log now)
    (same : breaker.strategy = some strategy) (host : HostKey) :
    ∀ moment ∈ breaker.remembered host, moment ≤ now := by
  obtain ⟨aged, parts, -⟩ := remembers.forgotten strategy same host
  intro moment member
  exact remembers.past host moment (parts ▸ List.mem_append_right aged member)

/-- Right after a failure the young failures of every host are remembered, and the new one. -/
theorem remembered_young (remembers : breaker.Remembers log now)
    (same : breaker.strategy = some strategy) (host other : HostKey) :
    (breaker.recordFailure host now).remembered other =
      log.young strategy other now ++ if other = host then [now] else [] := by
  rw [remembered_recordFailure same remembers.keys, remembers.prune_remembered same]
  rfl

/-- Right after a question about a host its young failures are remembered. -/
theorem remembered_pruned (remembers : breaker.Remembers log now)
    (same : breaker.strategy = some strategy) (host : HostKey) :
    (breaker.failureCount host now).2.remembered host = log.young strategy host now := by
  rw [remembered_failureCount same, if_pos rfl, remembers.prune_remembered same]
  rfl

/-- Right after a failure the new one is stored, and of those before it the young ones. -/
theorem perm_recordFailure {calls : List (Nat × Call)}
    (remembers : breaker.Remembers (.ofCalls calls) now)
    (same : breaker.strategy = some strategy) (host : HostKey) :
    (hostMoments (breaker.recordFailure host now).failures).Perm
      ((host, now) :: (hostFailures calls).filter fun failure => !isAged strategy now failure.2) := by
  refine List.perm_iff_count.2 fun failure => ?_
  obtain ⟨other, moment⟩ := failure
  have found : (((breaker.recordFailure host now).failures.lookup other).getD []).count moment =
      ((FailureLog.ofCalls calls).young strategy other now).count moment +
        (if other = host then [now] else []).count moment := by
    rw [← List.count_append, ← remembers.remembered_young same]
    rfl
  rw [count_hostMoments (remembers.recordFailure host).keys, found, List.count_cons,
    count_filter_hostFailures]
  congr 1
  by_cases here : other = host
  · subst here
    rw [if_pos rfl, List.count_singleton]
    simp
  · rw [if_neg here]
    simp [Ne.symm here]

end Remembers

/-! ## The memory along a run -/

/-- The memory of a breaker is in order after calls: every host has one entry, with its moments in
the order of time, and none is later than the last call. -/
structure InOrder (breaker : Breaker) (calls : List (Nat × Call)) : Prop where
  keys : (breaker.failures.map (·.1)).Nodup
  filled : ∀ entry ∈ breaker.failures, entry.2 ≠ []
  ordered : ∀ entry ∈ breaker.failures, entry.2.Pairwise (· ≤ ·)
  past : ∀ entry ∈ breaker.failures, ∀ moment ∈ entry.2, ∃ last ∈ calls.getLast?, moment ≤ last.1

/-- The memory of a breaker right after a host has failed, which came after earlier calls. -/
structure Swept (breaker : Breaker) (strategy : BreakerStrategy) (earlier : List (Nat × Call))
    (host : HostKey) (now : Nat) : Prop where
  /-- The new failure is the last one of its host, and what stands before it is young. -/
  latest : ∃ moments, (host, moments ++ [now]) ∈ breaker.failures ∧
    ∀ moment ∈ moments, now - moment < strategy.age.nanos
  /-- Of the other hosts only young failures are stored. -/
  others : ∀ entry ∈ breaker.failures, entry.1 ≠ host →
    ∀ moment ∈ entry.2, now - moment < strategy.age.nanos
  /-- So no other host is stored unless it failed of late. -/
  recent : ∀ entry ∈ breaker.failures, entry.1 ≠ host →
    ∃ moment ∈ FailureLog.ofCalls earlier entry.1, now - moment < strategy.age.nanos
  /-- As many moments are stored as earlier failures are young, and one more. -/
  size : (hostMoments breaker.failures).length =
    1 + (hostFailures earlier).countP fun failure => decide (now - failure.2 < strategy.age.nanos)

/-- The memory of a breaker right after a question about a host, which came after earlier calls. -/
structure Pruned (breaker : Breaker) (strategy : BreakerStrategy) (earlier : List (Nat × Call))
    (host : HostKey) (now : Nat) : Prop where
  /-- Only young failures of the host are stored. -/
  young : ∀ moments, (host, moments) ∈ breaker.failures →
    ∀ moment ∈ moments, now - moment < strategy.age.nanos
  /-- The host has an entry only if one of its failures is young. -/
  kept : host ∈ breaker.failures.map (·.1) ↔
    ∃ moment ∈ FailureLog.ofCalls earlier host, now - moment < strategy.age.nanos

section

variable {breaker : Breaker} {strategy : BreakerStrategy} {calls : List (Nat × Call)} {now : Nat}

/-- At the moment of the last call the memory is in order. -/
theorem Remembers.inOrder {last : Nat × Call}
    (remembers : breaker.Remembers (.ofCalls (calls ++ [last])) last.1)
    (tidy : Tidy breaker.failures) (same : breaker.strategy = some strategy) :
    breaker.InOrder (calls ++ [last]) where
  keys := tidy.keys
  filled := tidy.filled
  ordered := by
    intro entry member
    rw [← tidy.remembered_eq member]
    exact remembers.ordered_remembered same entry.1
  past := by
    intro entry member moment stored
    rw [← tidy.remembered_eq member] at stored
    exact ⟨last, List.getLast?_concat, remembers.past_remembered same entry.1 moment stored⟩

/-- An empty memory is in order. -/
theorem inOrder_of_failures_eq_nil (nothing : breaker.failures = []) : breaker.InOrder calls := by
  constructor <;> simp [nothing]

/-- A failure sweeps the memory. -/
theorem Remembers.swept (remembers : breaker.Remembers (.ofCalls calls) now)
    (tidy : Tidy breaker.failures) (same : breaker.strategy = some strategy) (host : HostKey) :
    (breaker.recordFailure host now).Swept strategy calls host now := by
  have after : Tidy (breaker.recordFailure host now).failures :=
    tidy_call tidy now (.recordFailure host)
  have remembered := remembers.remembered_young same host
  -- An entry of another host consists of its young failures, and there is one.
  have young : ∀ entry ∈ (breaker.recordFailure host now).failures, entry.1 ≠ host →
      entry.2 = (FailureLog.ofCalls calls).young strategy entry.1 now := by
    intro entry member other
    rw [← after.remembered_eq member, remembered, if_neg other, List.append_nil]
  refine ⟨?latest, ?others, ?recent, ?size⟩
  case latest =>
    refine ⟨(FailureLog.ofCalls calls).young strategy host now, after.mem_iff.2 ⟨by simp, ?_⟩,
      fun moment member => (FailureLog.mem_young.1 member).2⟩
    rw [remembered, if_pos rfl]
  case others =>
    intro entry member other moment stored
    rw [young entry member other] at stored
    exact (FailureLog.mem_young.1 stored).2
  case recent =>
    intro entry member other
    obtain ⟨moment, stored⟩ := List.exists_mem_of_ne_nil _ (after.filled entry member)
    rw [young entry member other] at stored
    exact ⟨moment, FailureLog.mem_young.1 stored⟩
  case size =>
    rw [(remembers.perm_recordFailure same host).length_eq, List.length_cons,
      ← List.countP_eq_length_filter, Nat.add_comm]
    simp only [not_isAged]

/-- A question prunes its host. -/
theorem Remembers.pruned (remembers : breaker.Remembers (.ofCalls calls) now)
    (tidy : Tidy breaker.failures) (same : breaker.strategy = some strategy) (host : HostKey) :
    (breaker.failureCount host now).2.Pruned strategy calls host now := by
  have after : Tidy (breaker.failureCount host now).2.failures :=
    tidy_call tidy now (.failureCount host)
  have remembered := remembers.remembered_pruned same host
  refine ⟨?young, ?kept⟩
  case young =>
    intro moments member moment stored
    rw [← (after.mem_iff.1 member).2, remembered] at stored
    exact (FailureLog.mem_young.1 stored).2
  case kept =>
    rw [after.mem_keys_iff, remembered]
    constructor
    · intro something
      obtain ⟨moment, member⟩ := List.exists_mem_of_ne_nil _ something
      exact ⟨moment, FailureLog.mem_young.1 member⟩
    · rintro ⟨moment, young⟩
      exact List.ne_nil_of_mem (FailureLog.mem_young.2 young)

/-- What is remembered when the last call of a run is made. -/
theorem remembers_before (strategy : Option BreakerStrategy) {call : Call}
    (ordered : ((calls ++ [(now, call)]).map (·.1)).Pairwise (· ≤ ·)) :
    ((Breaker.new strategy).replay calls).Remembers (.ofCalls calls) now := by
  rw [List.map_append] at ordered
  exact remembers_replay strategy calls now ordered

/-- After any run in the order of time the memory is in order. -/
theorem inOrder_replay (strategy : Option BreakerStrategy)
    (ordered : (calls.map (·.1)).Pairwise (· ≤ ·)) :
    ((Breaker.new strategy).replay calls).InOrder calls := by
  cases strategy with
  | none =>
      rw [replay_of_no_strategy rfl]
      exact inOrder_of_failures_eq_nil rfl
  | some strategy =>
      rcases List.eq_nil_or_concat calls with rfl | ⟨earlier, last, rfl⟩
      · exact inOrder_of_failures_eq_nil rfl
      · rw [List.concat_eq_append] at ordered ⊢
        have remembers := (remembers_before (some strategy) ordered).call last.2
        rw [← replay_concat] at remembers
        exact remembers.inOrder (tidy_replay _ _) (strategy_replay _ _)

end

/-- **The memory is in order, and bounded by what failed of late.** Whatever calls were made in the
order of time, every stored host has moments, they are in the order of time, and none is later than
the last call; without a strategy nothing is stored. Right after a failure nothing is aged but
perhaps that failure, so that no other host is stored without a failure within the age, and as many
moments are stored as failures of all hosts were recorded within the age, and the new one. Right
after a question about a host nothing aged is stored of it, and it is stored only if something is
left. -/
theorem memory_bounded (strategy : Option BreakerStrategy) (calls : List (Nat × Call))
    (ordered : (calls.map (·.1)).Pairwise (· ≤ ·)) :
    let breaker := (Breaker.new strategy).replay calls
    breaker.InOrder calls ∧
    (strategy = none → breaker.failures = []) ∧
    ∀ bound, strategy = some bound → ∀ earlier now,
      (∀ host, calls = earlier ++ [(now, .recordFailure host)] →
        breaker.Swept bound earlier host now) ∧
      (∀ question, question.isQuestion = true → calls = earlier ++ [(now, question)] →
        breaker.Pruned bound earlier question.host now) := by
  intro breaker
  refine ⟨inOrder_replay strategy ordered, ?_, ?_⟩
  · rintro rfl
    exact congrArg Breaker.failures (replay_of_no_strategy rfl calls)
  · rintro bound rfl earlier now
    have same := strategy_replay (Breaker.new (some bound)) earlier
    have tidy := tidy_replay (some bound) earlier
    constructor
    · rintro host rfl
      simp only [breaker, replay_concat]
      exact (remembers_before _ ordered).swept tidy same host
    · rintro question asks rfl
      simp only [breaker, replay_concat, call_of_isQuestion _ now asks]
      exact (remembers_before _ ordered).pruned tidy same question.host

/-- Three hosts that fail at `0`, `50`, `60` and `120`, when the failure at `0` is aged. -/
def sweepingRun : List (Nat × Call) :=
  [(0, .recordFailure ⟨"a"⟩), (50, .recordFailure ⟨"b"⟩), (60, .recordFailure ⟨"a"⟩),
    (120, .recordFailure ⟨"c"⟩)]

/-- The same run with a question about `b` at `150`, when its failure has reached its age. -/
def forgettingRun : List (Nat × Call) := sweepingRun ++ [(150, .state ⟨"b"⟩)]

/-- The failure of `c` sweeps the failure at `0`, and two of the earlier failures are left. The
question about `b` leaves nothing of it. -/
theorem memory_bounded_forgettingRun :
    let swept := (Breaker.new (some twoFailures)).replay sweepingRun
    let pruned := (Breaker.new (some twoFailures)).replay forgettingRun
    (sweepingRun.map Prod.fst).Pairwise (· ≤ ·) ∧
      swept.Swept twoFailures (sweepingRun.take 3) ⟨"c"⟩ 120 ∧
      (hostMoments swept.failures).length = 3 ∧
      (forgettingRun.map Prod.fst).Pairwise (· ≤ ·) ∧
      pruned.InOrder forgettingRun ∧
      pruned.Pruned twoFailures sweepingRun ⟨"b"⟩ 150 ∧
      ⟨"b"⟩ ∉ pruned.failures.map Prod.fst := by
  intro swept pruned
  have inTime : (sweepingRun.map Prod.fst).Pairwise (· ≤ ·) := by decide
  have inTimeToo : (forgettingRun.map Prod.fst).Pairwise (· ≤ ·) := by decide
  obtain ⟨-, -, sweeps⟩ := memory_bounded (some twoFailures) sweepingRun inTime
  obtain ⟨inOrder, -, prunes⟩ := memory_bounded (some twoFailures) forgettingRun inTimeToo
  have failed : swept.Swept twoFailures (sweepingRun.take 3) ⟨"c"⟩ 120 :=
    (sweeps twoFailures rfl _ 120).1 ⟨"c"⟩ rfl
  have asked : pruned.Pruned twoFailures sweepingRun ⟨"b"⟩ 150 :=
    (prunes twoFailures rfl sweepingRun 150).2 (.state ⟨"b"⟩) rfl rfl
  refine ⟨inTime, failed, failed.size.trans (by decide), inTimeToo, inOrder, asked, ?_⟩
  rw [asked.kept]
  decide

/-- With no age at all even the failure that was just recorded is aged, but it is stored. -/
example : ((Breaker.new (some ⟨1, Span.zero, by decide⟩)).replay sweepingRun).failures =
    [(⟨"c"⟩, [120])] := by decide

end Breaker

end ResilientHttp
