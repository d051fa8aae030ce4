import ResilientHttp.Breaker
import ResilientHttp.Proofs.Lists
import Mathlib.Data.List.Induction
import Mathlib.Data.List.Nodup
import Mathlib.Data.List.TakeWhile

/-!
# A breaker that forgets nothing

The breaker drops failures while it is asked and while it records. Beside it stands the breaker that
drops nothing (`FailureLog`): it keeps every moment at which a host failed and counts the young ones
when it is asked. The two give the same answers, at every time and for every host
(`Breaker.replay_refines`).

The reason is that the breaker remembers, of every host, an end of the full history, and that what
stands before it has reached its age (`Breaker.Remembers`). A moment that has reached its age never
becomes young again, and in an ordered list the aged moments are a front part, so that dropping the
front part drops exactly the aged ones (`Breaker.prune_eq_filter`). Every operation keeps this for
every host, the sweep over all hosts included.
-/

set_option autoImplicit false

namespace ResilientHttp

/-- Every moment at which a host failed, oldest first. -/
abbrev FailureLog := HostKey → List Nat

namespace FailureLog

/-- The log with one more failure of a host. -/
def record (log : FailureLog) (host : HostKey) (now : Nat) : FailureLog := fun other =>
  if other = host then log other ++ [now] else log other

/-- The number of failures of a host that are younger than the age; without a strategy none
count. -/
def count (log : FailureLog) (strategy : Option BreakerStrategy) (host : HostKey) (now : Nat) :
    Nat :=
  match strategy with
  | none => 0
  | some strategy => (log host).countP fun moment => decide (now - moment < strategy.age.nanos)

/-- The state of a host: open while so many failures count. -/
def state (log : FailureLog) (strategy : Option BreakerStrategy) (host : HostKey) (now : Nat) :
    Circuit :=
  match strategy with
  | none => .closed
  | some strategy =>
    if strategy.maxErrors ≤ log.count (some strategy) host now then .opened else .closed

@[simp]
theorem record_self (log : FailureLog) (host : HostKey) (now : Nat) :
    log.record host now host = log host ++ [now] := if_pos rfl

theorem record_other (log : FailureLog) {host other : HostKey} (differ : other ≠ host)
    (now : Nat) : log.record host now other = log other := if_neg differ

/-- One more failure raises the count of its host by one at most, and no other count. -/
theorem count_record_le (log : FailureLog) (strategy : Option BreakerStrategy)
    (host other : HostKey) (now : Nat) :
    (log.record host now).count strategy other now ≤
      log.count strategy other now + if other = host then 1 else 0 := by
  cases strategy with
  | none => exact Nat.zero_le _
  | some strategy =>
      by_cases same : other = host
      · subst same
        simp only [count, record_self, List.countP_append, if_pos]
        exact Nat.add_le_add_left List.countP_le_length _
      · simp only [count, record_other log same, if_neg same, Nat.add_zero, Nat.le_refl]

/-- With time fewer failures count. -/
theorem count_le_of_le (log : FailureLog) (strategy : Option BreakerStrategy) (host : HostKey)
    {now later : Nat} (order : now ≤ later) :
    log.count strategy host later ≤ log.count strategy host now := by
  cases strategy with
  | none => exact Nat.le_refl _
  | some strategy =>
      refine List.countP_mono_left fun moment _ young => ?_
      simp only [decide_eq_true_eq] at young ⊢
      omega

end FailureLog

namespace Breaker

/-! ## Dropping the front part of an ordered list -/

/-- A failure that is not aged is younger than the age. -/
theorem not_isAged (strategy : BreakerStrategy) (now moment : Nat) :
    (!isAged strategy now moment) = decide (now - moment < strategy.age.nanos) := by
  simp [isAged, ← decide_not]

/-- A failure that has reached its age does not become young again. -/
theorem isAged_mono {strategy : BreakerStrategy} {now later moment : Nat} (order : now ≤ later)
    (aged : isAged strategy now moment = true) : isAged strategy later moment = true := by
  simp only [isAged, decide_eq_true_eq] at aged ⊢
  omega

/-- Of two failures the earlier one is aged first. -/
theorem isAged_of_le {strategy : BreakerStrategy} {now earlier moment : Nat}
    (order : earlier ≤ moment) (aged : isAged strategy now moment = true) :
    isAged strategy now earlier = true := by
  simp only [isAged, decide_eq_true_eq] at aged ⊢
  omega

/-- In an ordered list, dropping the aged front part drops exactly the aged moments. -/
theorem prune_eq_filter (strategy : BreakerStrategy) (now : Nat) {moments : List Nat}
    (ordered : moments.Pairwise (· ≤ ·)) :
    prune strategy now moments = moments.filter fun moment => !isAged strategy now moment := by
  induction moments with
  | nil => rfl
  | cons first rest ih =>
      rw [List.pairwise_cons] at ordered
      cases aged : isAged strategy now first with
      | true =>
          rw [prune, List.dropWhile_cons_of_pos aged, List.filter_cons_of_neg (by simp [aged])]
          exact ih ordered.2
      | false =>
          -- The first moment is the oldest one, so if it is young then all are.
          have young : ∀ moment ∈ first :: rest, !isAged strategy now moment := by
            intro moment member
            rcases List.mem_cons.1 member with rfl | later
            · simp [aged]
            · by_contra old
              have wouldBe := isAged_of_le (ordered.1 moment later) (by simpa using old)
              rw [aged] at wouldBe
              cases wouldBe
          rw [prune, List.dropWhile_cons_of_neg (by simp [aged]), List.filter_eq_self.2 young]

/-- What is dropped has reached its age, and what is kept is the rest. -/
theorem exists_aged_append_prune (strategy : BreakerStrategy) (now : Nat) (moments : List Nat) :
    ∃ aged, moments = aged ++ prune strategy now moments ∧
      ∀ moment ∈ aged, isAged strategy now moment = true :=
  ⟨moments.takeWhile (isAged strategy now), List.takeWhile_append_dropWhile.symm,
    fun _ member => List.mem_takeWhile_imp member⟩

/-! ## The memory as a table -/

/-- Storing the moments of a host changes what is remembered of that host and of no other. -/
theorem getD_lookup_store (failures : List (HostKey × List Nat)) (host other : HostKey)
    (moments : List Nat) :
    ((store failures host moments).lookup other).getD [] =
      if other = host then moments else (failures.lookup other).getD [] := by
  unfold store
  by_cases nothing : moments = []
  · subst nothing
    rw [if_pos List.isEmpty_nil, Entries.lookup_filter_ne]
    split <;> rfl
  · have something : ¬ moments.isEmpty = true := by simpa using nothing
    simp only [if_neg something]
    rw [Entries.lookup_replace]
    split <;> rfl

theorem keys_store {failures : List (HostKey × List Nat)}
    (distinct : (failures.map (·.1)).Nodup) (host : HostKey) (moments : List Nat) :
    ((store failures host moments).map (·.1)).Nodup := by
  have others : ((failures.filter (·.1 != host)).map (·.1)).Nodup :=
    distinct.sublist (List.filter_sublist.map _)
  unfold store
  split
  · exact others
  · rw [List.map_append, List.nodup_append]
    refine ⟨others, List.nodup_singleton _, ?_⟩
    intro key member last only same
    obtain ⟨entry, kept, rfl⟩ := List.mem_map.1 member
    have differs := (List.mem_filter.1 kept).2
    rw [List.mem_singleton.1 only] at same
    simp [same] at differs

theorem keys_sweep {failures : List (HostKey × List Nat)}
    (distinct : (failures.map (·.1)).Nodup) (strategy : BreakerStrategy) (now : Nat) :
    ((sweep strategy now failures).map (·.1)).Nodup := by
  unfold sweep
  refine List.Nodup.sublist (List.filter_sublist.map _) ?_
  rwa [List.map_map]

/-- Nothing is found under a key that no entry has. -/
theorem lookup_eq_none_of_not_mem {failures : List (HostKey × List Nat)} {host : HostKey}
    (absent : host ∉ failures.map (·.1)) : failures.lookup host = none := by
  rw [List.lookup_eq_none_iff]
  intro entry member
  rw [bne_iff_ne, ne_eq]
  rintro rfl
  exact absent (List.mem_map.2 ⟨entry, member, rfl⟩)

/-- The sweep prunes what is remembered of every host. -/
theorem getD_lookup_sweep {failures : List (HostKey × List Nat)}
    (distinct : (failures.map (·.1)).Nodup) (strategy : BreakerStrategy) (now : Nat)
    (host : HostKey) :
    ((sweep strategy now failures).lookup host).getD [] =
      prune strategy now ((failures.lookup host).getD []) := by
  induction failures with
  | nil => rfl
  | cons entry rest ih =>
      obtain ⟨key, moments⟩ := entry
      rw [List.map_cons, List.nodup_cons] at distinct
      have rest_eq := ih distinct.2
      simp only [sweep, List.map_cons] at rest_eq ⊢
      by_cases same : host = key
      · subst same
        -- When the entry goes, no later entry of the same host may take its place.
        have absent := lookup_eq_none_of_not_mem distinct.1
        by_cases nothing : prune strategy now moments = []
        · rw [List.filter_cons_of_neg (by simp [nothing]), rest_eq, absent, List.lookup_cons_self]
          exact nothing.symm
        · rw [List.filter_cons_of_pos (by simpa using nothing), List.lookup_cons_self,
            List.lookup_cons_self]
          rfl
      · have differ : (host == key) = false := beq_eq_false_iff_ne.2 same
        rw [List.lookup_cons, differ]
        by_cases nothing : prune strategy now moments = []
        · rw [List.filter_cons_of_neg (by simp [nothing]), rest_eq]
        · rw [List.filter_cons_of_pos (by simpa using nothing), List.lookup_cons, differ, rest_eq]

/-! ## What an operation leaves -/

/-- Recording a failure sweeps all hosts, and then gives the host its new failure. -/
theorem failures_recordFailure {breaker : Breaker} {strategy : BreakerStrategy}
    (same : breaker.strategy = some strategy) (host : HostKey) (now : Nat) :
    (breaker.recordFailure host now).failures =
      store (sweep strategy now breaker.failures) host
        (((sweep strategy now breaker.failures).lookup host).getD [] ++ [now]) := by
  simp only [recordFailure, same]

/-- A question about a host prunes that host. -/
theorem failures_failureCount {breaker : Breaker} {strategy : BreakerStrategy}
    (same : breaker.strategy = some strategy) (host : HostKey) (now : Nat) :
    (breaker.failureCount host now).2.failures =
      store breaker.failures host (prune strategy now (breaker.remembered host)) := by
  simp only [failureCount, same]

/-- After a failure of a host every host is pruned, that host too, before its new failure is added
to it. -/
theorem remembered_recordFailure {breaker : Breaker} {strategy : BreakerStrategy}
    (same : breaker.strategy = some strategy) (distinct : (breaker.failures.map (·.1)).Nodup)
    (host : HostKey) (now : Nat) (other : HostKey) :
    (breaker.recordFailure host now).remembered other =
      prune strategy now (breaker.remembered other) ++ if other = host then [now] else [] := by
  rw [remembered, failures_recordFailure same, getD_lookup_store]
  simp only [getD_lookup_sweep distinct]
  by_cases here : other = host
  · subst here
    rw [if_pos rfl, if_pos rfl]
    rfl
  · rw [if_neg here, if_neg here, List.append_nil]
    rfl

/-- After a question about a host that host is pruned, and no other. -/
theorem remembered_failureCount {breaker : Breaker} {strategy : BreakerStrategy}
    (same : breaker.strategy = some strategy) (host : HostKey) (now : Nat) (other : HostKey) :
    (breaker.failureCount host now).2.remembered other =
      if other = host then prune strategy now (breaker.remembered other)
      else breaker.remembered other := by
  rw [remembered, failures_failureCount same, getD_lookup_store]
  split
  · next here => rw [here]
  · rfl

/-! ## What the breaker remembers -/

/-- Of every host the breaker remembers an end of the full log, and what it forgot is aged. -/
structure Remembers (breaker : Breaker) (log : FailureLog) (now : Nat) : Prop where
  /-- Every host has one entry at most. -/
  keys : (breaker.failures.map (·.1)).Nodup
  /-- Failures come in the order of time, none from the future. -/
  ordered : ∀ host, (log host).Pairwise (· ≤ ·)
  past : ∀ host, ∀ moment ∈ log host, moment ≤ now
  forgotten : ∀ strategy, breaker.strategy = some strategy → ∀ host,
    ∃ aged, log host = aged ++ breaker.remembered host ∧
      ∀ moment ∈ aged, isAged strategy now moment = true

theorem remembers_new (strategy : Option BreakerStrategy) (now : Nat) :
    (Breaker.new strategy).Remembers (fun _ => []) now where
  keys := List.nodup_nil
  ordered := fun _ => List.Pairwise.nil
  past := by simp
  forgotten := fun _ _ _ => ⟨[], rfl, by simp⟩

namespace Remembers

variable {breaker : Breaker} {log : FailureLog} {now : Nat}

/-- What was forgotten stays aged. -/
theorem later (remembers : breaker.Remembers log now) {afterwards : Nat}
    (order : now ≤ afterwards) :
    breaker.Remembers log afterwards where
  keys := remembers.keys
  ordered := remembers.ordered
  past := fun host moment member => (remembers.past host moment member).trans order
  forgotten := by
    intro strategy same host
    obtain ⟨aged, parts, old⟩ := remembers.forgotten strategy same host
    exact ⟨aged, parts, fun moment member => isAged_mono order (old moment member)⟩

/-- The young failures of the full log are the young ones that are remembered. -/
theorem filter_log (remembers : breaker.Remembers log now) {strategy : BreakerStrategy}
    (same : breaker.strategy = some strategy) (host : HostKey) :
    ((log host).filter fun moment => !isAged strategy now moment) =
      (breaker.remembered host).filter fun moment => !isAged strategy now moment := by
  obtain ⟨aged, parts, old⟩ := remembers.forgotten strategy same host
  have nothing : (aged.filter fun moment => !isAged strategy now moment) = [] :=
    List.filter_eq_nil_iff.2 fun moment member => by simp [old moment member]
  rw [parts, List.filter_append, nothing, List.nil_append]

/-- What is remembered of a host is in order. -/
theorem ordered_remembered (remembers : breaker.Remembers log now) {strategy : BreakerStrategy}
    (same : breaker.strategy = some strategy) (host : HostKey) :
    (breaker.remembered host).Pairwise (· ≤ ·) := by
  obtain ⟨aged, parts, _⟩ := remembers.forgotten strategy same host
  have ordered := remembers.ordered host
  rw [parts] at ordered
  exact (List.pairwise_append.1 ordered).2.1

/-- Pruning what is remembered leaves the young failures of the full log. -/
theorem prune_remembered (remembers : breaker.Remembers log now) {strategy : BreakerStrategy}
    (same : breaker.strategy = some strategy) (host : HostKey) :
    prune strategy now (breaker.remembered host) =
      (log host).filter fun moment => !isAged strategy now moment :=
  (prune_eq_filter strategy now (remembers.ordered_remembered same host)).trans
    (remembers.filter_log same host).symm

/-- The breaker counts as the full log does. -/
theorem failureCount_eq (remembers : breaker.Remembers log now) (host : HostKey) :
    (breaker.failureCount host now).1 = log.count breaker.strategy host now := by
  cases same : breaker.strategy with
  | none => simp [failureCount, same, FailureLog.count]
  | some strategy =>
      have young := remembers.prune_remembered same host
      simp only [not_isAged] at young
      simp only [failureCount, same, FailureLog.count, young, List.countP_eq_length_filter]

/-- The breaker is open when the full log says so. -/
theorem state_eq (remembers : breaker.Remembers log now) (host : HostKey) :
    (breaker.state host now).1 = log.state breaker.strategy host now := by
  have count := remembers.failureCount_eq host
  cases same : breaker.strategy with
  | none => simp [state, same, FailureLog.state]
  | some strategy =>
      rw [same] at count
      simp only [state, same, FailureLog.state, ← count]

/-! Every operation keeps what the breaker remembers. -/

/-- Pruning a host lengthens what is forgotten of it by what is aged. -/
theorem forgotten_prune (remembers : breaker.Remembers log now) {strategy : BreakerStrategy}
    (same : breaker.strategy = some strategy) (host : HostKey) :
    ∃ aged, log host = aged ++ prune strategy now (breaker.remembered host) ∧
      ∀ moment ∈ aged, isAged strategy now moment = true := by
  obtain ⟨before, parts, old⟩ := remembers.forgotten strategy same host
  obtain ⟨dropped, kept, aged⟩ :=
    exists_aged_append_prune strategy now (breaker.remembered host)
  refine ⟨before ++ dropped, ?_, ?_⟩
  · rw [List.append_assoc, ← kept]
    exact parts
  · intro moment member
    rcases List.mem_append.1 member with first | second
    · exact old moment first
    · exact aged moment second

theorem failureCount (remembers : breaker.Remembers log now) (host : HostKey) :
    (breaker.failureCount host now).2.Remembers log now := by
  cases same : breaker.strategy with
  | none => simpa only [Breaker.failureCount, same] using remembers
  | some strategy =>
      refine ⟨?_, remembers.ordered, remembers.past, ?_⟩
      · rw [failures_failureCount same]
        exact keys_store remembers.keys host _
      · intro bound sameStrategy other
        rw [strategy_failureCount, same] at sameStrategy
        obtain rfl : strategy = bound := Option.some.inj sameStrategy
        rw [remembered_failureCount same]
        split
        · exact remembers.forgotten_prune same other
        · exact remembers.forgotten strategy same other

theorem state (remembers : breaker.Remembers log now) (host : HostKey) :
    (breaker.state host now).2.Remembers log now := by
  cases same : breaker.strategy with
  | none => simpa only [Breaker.state, same] using remembers
  | some strategy => simpa only [Breaker.state, same] using remembers.failureCount host

theorem isOpen (remembers : breaker.Remembers log now) (host : HostKey) :
    (breaker.isOpen host now).2.Remembers log now :=
  remembers.state host

theorem recordFailure (remembers : breaker.Remembers log now) (host : HostKey) :
    (breaker.recordFailure host now).Remembers (log.record host now) now := by
  have ordered : ∀ other, (log.record host now other).Pairwise (· ≤ ·) := by
    intro other
    unfold FailureLog.record
    split
    · refine List.pairwise_append.2 ⟨remembers.ordered other, List.pairwise_singleton _ _, ?_⟩
      intro moment member last only
      rw [List.mem_singleton.1 only]
      exact remembers.past other moment member
    · exact remembers.ordered other
  have past : ∀ other, ∀ moment ∈ log.record host now other, moment ≤ now := by
    intro other moment member
    unfold FailureLog.record at member
    split at member
    · rcases List.mem_append.1 member with old | new
      · exact remembers.past other moment old
      · exact (List.mem_singleton.1 new).le
    · exact remembers.past other moment member
  cases same : breaker.strategy with
  | none =>
      refine ⟨?_, ordered, past, ?_⟩ <;> simp only [Breaker.recordFailure, same]
      · exact remembers.keys
      · exact nofun
  | some strategy =>
      refine ⟨?_, ordered, past, ?_⟩
      · rw [failures_recordFailure same]
        exact keys_store (keys_sweep remembers.keys strategy now) host _
      · intro bound sameStrategy other
        rw [strategy_recordFailure, same] at sameStrategy
        obtain rfl : strategy = bound := Option.some.inj sameStrategy
        obtain ⟨aged, parts, old⟩ := remembers.forgotten_prune same other
        refine ⟨aged, ?_, old⟩
        rw [remembered_recordFailure same remembers.keys, ← List.append_assoc, ← parts]
        unfold FailureLog.record
        split
        · rfl
        · exact (List.append_nil _).symm

end Remembers

/-! ## Runs of calls -/

/-- One call on a breaker. -/
inductive Call where
  | recordFailure (host : HostKey)
  | failureCount (host : HostKey)
  | state (host : HostKey)
  | isOpen (host : HostKey)
  deriving DecidableEq, Repr

/-- The breaker after a call. -/
def call (breaker : Breaker) (now : Nat) : Call → Breaker
  | .recordFailure host => breaker.recordFailure host now
  | .failureCount host => (breaker.failureCount host now).2
  | .state host => (breaker.state host now).2
  | .isOpen host => (breaker.isOpen host now).2

/-- The breaker after calls at their moments. -/
def replay (breaker : Breaker) (calls : List (Nat × Call)) : Breaker :=
  calls.foldl (fun breaker entry => breaker.call entry.1 entry.2) breaker

end Breaker

/-- The log of all failures that were recorded by calls. -/
def FailureLog.ofCalls (calls : List (Nat × Breaker.Call)) : FailureLog := fun host =>
  calls.filterMap fun entry => if entry.2 = .recordFailure host then some entry.1 else none

namespace Breaker

/-- No call changes the strategy. -/
theorem strategy_call (breaker : Breaker) (now : Nat) (call : Call) :
    (breaker.call now call).strategy = breaker.strategy := by
  cases call with
  | recordFailure host => exact strategy_recordFailure breaker host now
  | failureCount host => exact strategy_failureCount breaker host now
  | state host => exact strategy_state breaker host now
  | isOpen host => exact strategy_state breaker host now

theorem strategy_replay (breaker : Breaker) (calls : List (Nat × Call)) :
    (breaker.replay calls).strategy = breaker.strategy := by
  induction calls generalizing breaker with
  | nil => rfl
  | cons entry rest ih => exact (ih _).trans (strategy_call breaker entry.1 entry.2)

/-- A call extends the full log only if it records a failure. -/
theorem Remembers.call {breaker : Breaker} {now : Nat} {calls : List (Nat × Call)}
    (remembers : breaker.Remembers (.ofCalls calls) now) (call : Call) :
    (breaker.call now call).Remembers (.ofCalls (calls ++ [(now, call)])) now := by
  cases call with
  | recordFailure host =>
      have log : FailureLog.ofCalls (calls ++ [(now, .recordFailure host)]) =
          (FailureLog.ofCalls calls).record host now := by
        funext other
        by_cases same : other = host
        · subst same
          simp [FailureLog.ofCalls]
        · simp [FailureLog.ofCalls, FailureLog.record_other _ same, Ne.symm same]
      rw [log]
      exact remembers.recordFailure host
  | failureCount host =>
      have log : FailureLog.ofCalls (calls ++ [(now, .failureCount host)]) = .ofCalls calls := by
        funext other
        simp [FailureLog.ofCalls]
      rw [log]
      exact remembers.failureCount host
  | state host =>
      have log : FailureLog.ofCalls (calls ++ [(now, .state host)]) = .ofCalls calls := by
        funext other
        simp [FailureLog.ofCalls]
      rw [log]
      exact remembers.state host
  | isOpen host =>
      have log : FailureLog.ofCalls (calls ++ [(now, .isOpen host)]) = .ofCalls calls := by
        funext other
        simp [FailureLog.ofCalls]
      rw [log]
      exact remembers.isOpen host

/-- After calls in the order of time the breaker remembers what the full log has. -/
theorem remembers_replay (strategy : Option BreakerStrategy) (calls : List (Nat × Call)) :
    ∀ now, (calls.map (·.1) ++ [now]).Pairwise (· ≤ ·) →
      ((Breaker.new strategy).replay calls).Remembers (.ofCalls calls) now := by
  induction calls using List.reverseRecOn with
  | nil => exact fun now _ => remembers_new strategy now
  | append_singleton front last ih =>
      intro now ordered
      rw [List.map_append, List.pairwise_append] at ordered
      have before := ih last.1 ordered.1
      have after := before.call last.2
      rw [replay, List.foldl_append]
      exact after.later (ordered.2.2 last.1 (by simp) now (by simp))

/-- **The pruning breaker refines the breaker that forgets nothing.** Whatever calls were made, on
whatever hosts, in the order of time: afterwards a host's number of failures is the number of its
recorded failures that are younger than the age, and it is open exactly when that number reaches the
bound; and of no host was a failure dropped that still counts. -/
theorem replay_refines (strategy : Option BreakerStrategy) (calls : List (Nat × Call)) (now : Nat)
    (ordered : (calls.map (·.1) ++ [now]).Pairwise (· ≤ ·)) (host : HostKey) :
    let breaker := (Breaker.new strategy).replay calls
    let log := FailureLog.ofCalls calls
    (breaker.failureCount host now).1 = log.count strategy host now ∧
    (breaker.state host now).1 = log.state strategy host now ∧
    ((breaker.isOpen host now).1 = true ↔ log.state strategy host now = .opened) ∧
    ∀ bound, strategy = some bound → ∀ other,
      ((breaker.remembered other).filter fun moment => decide (now - moment < bound.age.nanos)) =
        (log other).filter fun moment => decide (now - moment < bound.age.nanos) := by
  intro breaker log
  have remembers : breaker.Remembers log now := remembers_replay strategy calls now ordered
  have same : breaker.strategy = strategy := strategy_replay _ calls
  have state := remembers.state_eq host
  rw [same] at state
  refine ⟨?_, state, ?_, ?_⟩
  · rw [remembers.failureCount_eq host, same]
  · rw [isOpen_fst, state, beq_iff_eq]
  · intro bound isBound other
    simp only [← not_isAged]
    exact (remembers.filter_log (same.trans isBound) other).symm

/-- A strategy of two failures within a hundred nanoseconds. -/
def twoFailures : BreakerStrategy := ⟨2, Span.ofNanos 100, by decide⟩

/-- A run in which both hosts are pruned: the first failure of `a` is dropped by a question, and
the failures of `a` are swept when `b` fails. -/
def prunedRun : List (Nat × Call) :=
  [(0, .recordFailure ⟨"a"⟩), (50, .recordFailure ⟨"a"⟩), (60, .state ⟨"a"⟩),
    (100, .isOpen ⟨"a"⟩), (120, .recordFailure ⟨"b"⟩), (130, .recordFailure ⟨"a"⟩)]

/-- The two failures of `a` that are still young open it again. -/
theorem replay_refines_prunedRun :
    (prunedRun.map Prod.fst ++ [140]).Pairwise (· ≤ ·) ∧
      (((Breaker.new (some twoFailures)).replay prunedRun).failureCount ⟨"a"⟩ 140).1 = 2 ∧
      (((Breaker.new (some twoFailures)).replay prunedRun).state ⟨"a"⟩ 140).1 = .opened := by
  have ordered : (prunedRun.map Prod.fst ++ [140]).Pairwise (· ≤ ·) := by decide
  obtain ⟨count, state, _⟩ := replay_refines (some twoFailures) prunedRun 140 ordered ⟨"a"⟩
  exact ⟨ordered, count.trans (by decide), state.trans (by decide)⟩

end Breaker

end ResilientHttp
