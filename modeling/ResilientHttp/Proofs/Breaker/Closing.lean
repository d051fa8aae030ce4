import ResilientHttp.Proofs.Breaker.FullHistory
import ResilientHttp.Time.Clock

/-!
# When an open host closes

A host is open because enough of its failures are young. Of the failures that are needed the oldest
one decides: with a bound of `m` it is the `m`-th newest. While that failure is young the host is
open, and at the moment at which it reaches its age the host closes (`FailureLog.closing?`). Only a
new failure of the host can put this off, so between two failures of a host its state changes once
at most, and never from closed to open.

Questions drop failures from the memory, but no answer shows it: what a breaker answers depends on
the failures that were recorded before, and on nothing else (`Breaker.Remembers.answer_congr`). So
questions can be put into a run or taken out of it, and every other answer stays the same
(`Breaker.answers_of_kept`).
-/

set_option autoImplicit false

namespace ResilientHttp

/-! ## The failure that decides -/

namespace FailureLog

/-- The moment at which an open host closes: when the oldest of the failures that are needed to keep
it open reaches its age. With too few failures there is none. -/
def closing? (log : FailureLog) (strategy : BreakerStrategy) (host : HostKey) : Option Nat :=
  if strategy.maxErrors ≤ (log host).length then
    (log host)[(log host).length - strategy.maxErrors]?.map (· + strategy.age.nanos)
  else none

/-- Where of two moments the later one satisfies a condition if the earlier one does, an ordered list
has more such moments than stand behind a certain one exactly when that one is among them. -/
theorem length_lt_countP_iff (young : Nat → Bool) {front back : List Nat} {moment : Nat}
    (later : ∀ {earlier moment : Nat}, earlier ≤ moment → young earlier = true →
      young moment = true)
    (ordered : (front ++ moment :: back).Pairwise (· ≤ ·)) :
    back.length < (front ++ moment :: back).countP young ↔ young moment = true := by
  obtain ⟨-, behind, before⟩ := List.pairwise_append.1 ordered
  rw [List.pairwise_cons] at behind
  rw [List.countP_append, List.countP_cons]
  constructor
  · intro many
    by_contra aged
    -- What stands before an aged moment is aged, too, so only the moments behind it can count.
    have none : front.countP young = 0 := by
      refine List.countP_eq_zero.2 fun earlier member counts => aged ?_
      exact later (before earlier member moment List.mem_cons_self) counts
    have few := List.countP_le_length (p := young) (l := back)
    rw [none, if_neg aged] at many
    omega
  · intro counts
    have all : back.countP young = back.length :=
      List.countP_eq_length.2 fun moment member => later (behind.1 moment member) counts
    rw [all, if_pos counts]
    omega

variable {log : FailureLog} {strategy : BreakerStrategy} {host : HostKey} {now : Nat}

/-- A host is open until its moment of closing. -/
theorem opened_iff (ordered : (log host).Pairwise (· ≤ ·)) (past : ∀ moment ∈ log host, moment ≤ now) :
    log.state (some strategy) host now = .opened ↔
      ∃ moment, log.closing? strategy host = some moment ∧ now < moment := by
  have positive := strategy.maxErrors_pos
  have opened : log.state (some strategy) host now = .opened ↔
      strategy.maxErrors ≤ log.count (some strategy) host now := by
    simp only [state]
    split <;> simp_all
  rw [opened, closing?]
  by_cases enough : strategy.maxErrors ≤ (log host).length
  · have within : (log host).length - strategy.maxErrors < (log host).length := by omega
    -- As many failures stand behind the one that decides as are needed besides it.
    obtain ⟨front, moment, back, parts, decides, behind⟩ :
        ∃ front moment back, log host = front ++ moment :: back ∧
          (log host)[(log host).length - strategy.maxErrors]? = some moment ∧
          back.length + 1 = strategy.maxErrors := by
      refine ⟨_, _, _, (List.take_append_drop _ _).symm.trans
        (congrArg _ (List.drop_eq_getElem_cons within)), List.getElem?_eq_getElem within, ?_⟩
      rw [List.length_drop]
      omega
    have oldest : moment ≤ now := past moment (parts ▸ by simp)
    rw [parts] at ordered
    have decided := length_lt_countP_iff
      (fun moment => decide (now - moment < strategy.age.nanos))
      (fun order young => by simp only [decide_eq_true_eq] at young ⊢; omega) ordered
    rw [if_pos enough, decides, count, parts, ← behind, Nat.succ_le_iff, decided, decide_eq_true_eq]
    simp only [Option.map_some, Option.some.injEq, exists_eq_left']
    omega
  · have few : log.count (some strategy) host now ≤ (log host).length := List.countP_le_length
    rw [if_neg enough]
    simp only [reduceCtorEq, false_and, exists_false, iff_false]
    omega

/-- The log of calls is the log of those before some point with the log of those after it. -/
theorem ofCalls_append (front back : List (Nat × Breaker.Call)) (host : HostKey) :
    ofCalls (front ++ back) host = ofCalls front host ++ ofCalls back host :=
  List.filterMap_append

/-- Calls that record no failure of a host leave its log. -/
theorem ofCalls_eq_nil {calls : List (Nat × Breaker.Call)} {host : HostKey}
    (spared : ∀ entry ∈ calls, entry.2 ≠ .recordFailure host) : ofCalls calls host = [] :=
  List.filterMap_eq_nil_iff.2 fun entry member => if_neg (spared entry member)

end FailureLog

namespace Breaker

/-- How long ago a failure was can be told by a span, which has an end: no strategy's age lies beyond
it. -/
theorem isAged_eq_elapsed (strategy : BreakerStrategy) (now moment : Nat) :
    isAged strategy now moment =
      decide (strategy.age.nanos ≤ (Clock.elapsed moment now).nanos) := by
  have longest := strategy.age.nanos_le_maxNanos
  rw [Clock.elapsed, Span.nanos_ofNanos, isAged, decide_eq_decide, Nat.le_min]
  exact (and_iff_left longest).symm

/-! ## Answers -/

/-- What a call tells its caller. -/
inductive Answer where
  | recorded
  | count (number : Nat)
  | circuit (circuit : Circuit)
  | turnedAway (turnedAway : Bool)
  deriving DecidableEq, Repr

/-- Whether a call only asks. -/
def Call.isQuestion : Call → Bool
  | .recordFailure _ => false
  | .failureCount _ => true
  | .state _ => true
  | .isOpen _ => true

/-- The answer to a call. -/
def answer (breaker : Breaker) (now : Nat) : Call → Answer
  | .recordFailure _ => .recorded
  | .failureCount host => .count (breaker.failureCount host now).1
  | .state host => .circuit (breaker.state host now).1
  | .isOpen host => .turnedAway (breaker.isOpen host now).1

/-- The answers to calls that are made one after another. -/
def answers (breaker : Breaker) : List (Nat × Call) → List Answer
  | [] => []
  | (now, call) :: rest => breaker.answer now call :: (breaker.call now call).answers rest

theorem length_answers (breaker : Breaker) (calls : List (Nat × Call)) :
    (breaker.answers calls).length = calls.length := by
  induction calls generalizing breaker with
  | nil => rfl
  | cons entry rest ih => exact congrArg (· + 1) (ih _)

theorem answers_append (breaker : Breaker) (front back : List (Nat × Call)) :
    breaker.answers (front ++ back) =
      breaker.answers front ++ (breaker.replay front).answers back := by
  induction front generalizing breaker with
  | nil => rfl
  | cons entry rest ih => exact congrArg (breaker.answer entry.1 entry.2 :: ·) (ih _)

/-- Breakers with the same strategy that remember the same log give the same answers. -/
theorem Remembers.answer_congr {breaker other : Breaker} {log : FailureLog} {now : Nat}
    (one : breaker.Remembers log now) (another : other.Remembers log now)
    (same : breaker.strategy = other.strategy) (call : Call) :
    breaker.answer now call = other.answer now call := by
  have states : ∀ host, (breaker.state host now).1 = (other.state host now).1 := by
    intro host
    rw [one.state_eq, another.state_eq, same]
  cases call with
  | recordFailure host => rfl
  | failureCount host => simp only [answer, one.failureCount_eq, another.failureCount_eq, same]
  | state host => simp only [answer, states]
  | isOpen host => simp only [answer, isOpen_fst, states]

/-- The calls of a run that are kept. -/
def kept (run : List ((Nat × Call) × Bool)) : List (Nat × Call) :=
  (run.filter (·.2)).map (·.1)

/-- Where only questions are left out, the failures stay. -/
theorem ofCalls_kept {run : List ((Nat × Call) × Bool)}
    (questions : ∀ entry ∈ run, entry.2 = false → entry.1.2.isQuestion = true) :
    FailureLog.ofCalls (kept run) = .ofCalls (run.map (·.1)) := by
  funext host
  rw [FailureLog.ofCalls, FailureLog.ofCalls, kept, List.filterMap_map, List.filterMap_map,
    List.filterMap_filter]
  refine List.filterMap_congr fun entry member => ?_
  obtain ⟨⟨now, call⟩, keep⟩ := entry
  cases keep with
  | true => rfl
  | false =>
      have asks : call.isQuestion = true := questions _ member rfl
      cases call with
      | recordFailure _ => cases asks
      | failureCount _ => rfl
      | state _ => rfl
      | isOpen _ => rfl

/-- A run without some of its questions has the answers that the whole run gives to the others. -/
theorem answers_of_kept (strategy : Option BreakerStrategy) (run : List ((Nat × Call) × Bool))
    (ordered : (run.map (·.1.1)).Pairwise (· ≤ ·))
    (questions : ∀ entry ∈ run, entry.2 = false → entry.1.2.isQuestion = true) :
    (Breaker.new strategy).answers (kept run) =
      ((run.zip ((Breaker.new strategy).answers (run.map (·.1)))).filter (·.1.2)).map (·.2) := by
  induction run using List.reverseRecOn with
  | nil => rfl
  | append_singleton front last ih =>
      obtain ⟨⟨now, call⟩, keep⟩ := last
      rw [List.map_append] at ordered
      have before := ih (List.pairwise_append.1 ordered).1
        fun entry member => questions entry (List.mem_append_left _ member)
      have lengths : front.length = ((Breaker.new strategy).answers (front.map (·.1))).length := by
        rw [length_answers, List.length_map]
      rw [List.map_append, answers_append, List.zip_append lengths, List.filter_append,
        List.map_append, ← before]
      cases keep with
      | false =>
          have same : kept (front ++ [((now, call), false)]) = kept front := by simp [kept]
          rw [same]
          exact (List.append_nil _).symm
      | true =>
          have longer : kept (front ++ [((now, call), true)]) = kept front ++ [(now, call)] := by
            simp [kept]
          have inOrder : ((kept front).map (·.1) ++ [now]).Pairwise (· ≤ ·) := by
            refine ordered.sublist (List.Sublist.append ?_ (List.Sublist.refl _))
            rw [kept, List.map_map]
            exact List.filter_sublist.map _
          rw [longer, answers_append]
          have fewer := remembers_replay strategy (kept front) now inOrder
          rw [ofCalls_kept fun entry member => questions entry (List.mem_append_left _ member)]
            at fewer
          have all := remembers_replay strategy (front.map (·.1)) now
            (by rw [List.map_map]; exact ordered)
          have strategies := (strategy_replay (Breaker.new strategy) (kept front)).trans
            (strategy_replay (Breaker.new strategy) (front.map (·.1))).symm
          exact congrArg (fun answer => _ ++ [answer]) (fewer.answer_congr all strategies call)

/-! ## The life of an open host -/

/-- **An open host closes when the oldest needed failure has reached its age.** After calls in the
order of time a host is open exactly while its moment of closing has not come. Whatever else is
called, as long as the host does not fail again, it is open later exactly if it is open now and that
moment has not come by then: it closes once, and it does not open by itself. No age is too long, for
what is compared with it is the span since a failure. And a run without some of its questions has the
same answers to all other calls. -/
theorem open_until_aged (strategy : BreakerStrategy) :
    (∀ (calls : List (Nat × Call)) (now : Nat), (calls.map (·.1) ++ [now]).Pairwise (· ≤ ·) →
      ∀ host,
        let breaker := (Breaker.new (some strategy)).replay calls
        let closing? := (FailureLog.ofCalls calls).closing? strategy host
        ((breaker.state host now).1 = .opened ↔ ∃ moment, closing? = some moment ∧ now < moment) ∧
        ∀ further later, now ≤ later →
          ((calls ++ further).map (·.1) ++ [later]).Pairwise (· ≤ ·) →
          (∀ entry ∈ further, entry.2 ≠ .recordFailure host) →
          (((breaker.replay further).state host later).1 = .opened ↔
            (breaker.state host now).1 = .opened ∧
              ∃ moment, closing? = some moment ∧ later < moment)) ∧
    (∀ now moment, isAged strategy now moment =
      decide (strategy.age.nanos ≤ (Clock.elapsed moment now).nanos)) ∧
    ∀ run : List ((Nat × Call) × Bool), (run.map (·.1.1)).Pairwise (· ≤ ·) →
      (∀ entry ∈ run, entry.2 = false → entry.1.2.isQuestion = true) →
      (Breaker.new (some strategy)).answers (kept run) =
        ((run.zip ((Breaker.new (some strategy)).answers (run.map (·.1)))).filter (·.1.2)).map
          (·.2) := by
  refine ⟨?_, isAged_eq_elapsed strategy, answers_of_kept (some strategy)⟩
  intro calls now ordered host breaker closing?
  have opened : ∀ calls now, (calls.map (·.1) ++ [now]).Pairwise (· ≤ ·) →
      ((((Breaker.new (some strategy)).replay calls).state host now).1 = .opened ↔
        ∃ moment, (FailureLog.ofCalls calls).closing? strategy host = some moment ∧
          now < moment) := by
    intro calls now ordered
    have remembers := remembers_replay (some strategy) calls now ordered
    rw [remembers.state_eq, strategy_replay]
    exact FailureLog.opened_iff (remembers.ordered host) (remembers.past host)
  refine ⟨opened calls now ordered, ?_⟩
  intro further later order inOrder spared
  have whole : breaker.replay further = (Breaker.new (some strategy)).replay (calls ++ further) :=
    List.foldl_append.symm
  have same : (FailureLog.ofCalls (calls ++ further)).closing? strategy host = closing? := by
    have unchanged : FailureLog.ofCalls (calls ++ further) host = FailureLog.ofCalls calls host := by
      rw [FailureLog.ofCalls_append, FailureLog.ofCalls_eq_nil spared, List.append_nil]
    simp only [closing?, FailureLog.closing?, unchanged]
  rw [whole, opened _ _ inOrder, same, opened _ _ ordered]
  constructor
  · rintro ⟨moment, closes, before⟩
    exact ⟨⟨moment, closes, order.trans_lt before⟩, moment, closes, before⟩
  · exact And.right

/-- Two failures at `0` and `50`, with a question between. -/
def failingRun : List (Nat × Call) :=
  [(0, .recordFailure ⟨"a"⟩), (20, .isOpen ⟨"a"⟩), (50, .recordFailure ⟨"a"⟩)]

/-- What is called afterwards, while the host does not fail again. -/
def sparingRun : List (Nat × Call) :=
  [(70, .recordFailure ⟨"b"⟩), (99, .failureCount ⟨"a"⟩)]

/-- A run of which the first question, which drops a failure, and the last one can be left out. -/
def questionedRun : List ((Nat × Call) × Bool) :=
  [((0, .recordFailure ⟨"a"⟩), true), ((100, .state ⟨"a"⟩), false),
    ((120, .recordFailure ⟨"a"⟩), true), ((130, .failureCount ⟨"a"⟩), true),
    ((140, .isOpen ⟨"b"⟩), false)]

/-- The host that failed at `0` and `50` is open until `100`, and closed at `100`. -/
theorem open_until_aged_failingRun :
    let breaker := (Breaker.new (some twoFailures)).replay failingRun
    (failingRun.map Prod.fst ++ [60]).Pairwise (· ≤ ·) ∧
      (∀ entry ∈ sparingRun, entry.2 ≠ .recordFailure ⟨"a"⟩) ∧
      ((failingRun ++ sparingRun).map Prod.fst ++ [100]).Pairwise (· ≤ ·) ∧
      (breaker.state ⟨"a"⟩ 60).1 = .opened ∧
      ((breaker.replay sparingRun).state ⟨"a"⟩ 99).1 = .opened ∧
      ((breaker.replay sparingRun).state ⟨"a"⟩ 100).1 ≠ .opened ∧
      (questionedRun.map (·.1.1)).Pairwise (· ≤ ·) ∧
      (∀ entry ∈ questionedRun, entry.2 = false → entry.1.2.isQuestion = true) ∧
      (Breaker.new (some twoFailures)).answers (kept questionedRun) =
        [.recorded, .recorded, .count 1] := by
  intro breaker
  have ordered : (failingRun.map Prod.fst ++ [60]).Pairwise (· ≤ ·) := by decide
  have spared : ∀ entry ∈ sparingRun, entry.2 ≠ .recordFailure ⟨"a"⟩ := by decide
  have inOrder : ((failingRun ++ sparingRun).map Prod.fst ++ [100]).Pairwise (· ≤ ·) := by decide
  have times : (questionedRun.map (·.1.1)).Pairwise (· ≤ ·) := by decide
  have questions : ∀ entry ∈ questionedRun, entry.2 = false → entry.1.2.isQuestion = true := by
    decide
  have closes : (FailureLog.ofCalls failingRun).closing? twoFailures ⟨"a"⟩ = some 100 := by decide
  obtain ⟨life, -, answers⟩ := open_until_aged twoFailures
  obtain ⟨opened, after⟩ := life failingRun 60 ordered ⟨"a"⟩
  have now := opened.2 ⟨100, closes, by decide⟩
  refine ⟨ordered, spared, inOrder, now, ?_, ?_, times, questions, ?_⟩
  · exact (after sparingRun 99 (by decide) (by decide) spared).2 ⟨now, 100, closes, by decide⟩
  · intro still
    obtain ⟨-, moment, same, before⟩ := (after sparingRun 100 (by decide) inOrder spared).1 still
    rw [closes] at same
    cases same
    exact absurd before (by decide)
  · exact (answers questionedRun times questions).trans (by decide)

end Breaker

end ResilientHttp
