import ResilientHttp.Proofs.Engine.Ledger
import ResilientHttp.Proofs.Engine.Slots
import Mathlib.Data.List.Infix

/-!
# How often a failing host is tried

A request that passed the check of the breaker may still fail, so a host can collect more failures
than the bound of its breaker. It cannot collect many more. The failures that still count, together
with the attempts that passed their check and have not ended, stay below the bound plus the number
of requests to the host that are under way at once (`World.Guarded`): a check is passed only while
fewer failures count than the bound, and an attempt that fails leaves the attempts when it joins the
failures.

So there is a limit to the young failures at every moment, and to the failures in every window of
time that is shorter than the age, however often the requests may be repeated
(`World.host_protected`).
-/

set_option autoImplicit false

namespace ResilientHttp

namespace Stage

/-- Whether the request was looked at and is still on its way. -/
def isUnderWay : Stage → Bool
  | checking _ => true
  | entering _ => true
  | queued _ => true
  | exchanging _ => true
  | pausing _ _ => true
  | _ => false

/-- Whether the breaker let an attempt pass that has not ended. -/
def isAttempting : Stage → Bool
  | entering _ => true
  | queued _ => true
  | exchanging _ => true
  | _ => false

/-- An attempt belongs to a request that is under way. -/
theorem isUnderWay_of_isAttempting {stage : Stage} (attempting : stage.isAttempting = true) :
    stage.isUnderWay = true := by
  cases stage <;> first | rfl | cases attempting

end Stage

namespace World

/-- The number of requests to a host that are under way. -/
def executing (world : World) (host : HostKey) : Nat :=
  world.flights.countP fun flight => flight.host == host && flight.stage.isUnderWay

/-- The number of attempts at a host that passed their check and have not ended. -/
def attempting (world : World) (host : HostKey) : Nat :=
  world.flights.countP fun flight => flight.host == host && flight.stage.isAttempting

/-- There are no more attempts than requests under way. -/
theorem attempting_le_executing (world : World) (host : HostKey) :
    world.attempting host ≤ world.executing host := by
  refine List.countP_mono_left fun flight _ counted => ?_
  rw [Bool.and_eq_true] at counted ⊢
  exact counted.imp_right Stage.isUnderWay_of_isAttempting

/-- The failures that count and the attempts that may still fail, together, stay within the bound
of the breaker and the number of requests that may be under way. -/
def Guarded (bound : BreakerStrategy) (host : HostKey) (most : Nat) (world : World) : Prop :=
  world.failureLog.count (some bound) host world.now + world.attempting host ≤
    bound.maxErrors - 1 + most

/-- In every window that is shorter than the age no more failures are recorded. -/
def Windowed (bound : BreakerStrategy) (host : HostKey) (limit : Nat) (world : World) : Prop :=
  ∀ first last, last - first < bound.age.nanos →
    ((world.failureLog host).countP fun moment => decide (first ≤ moment ∧ moment ≤ last)) ≤ limit

end World

variable {config : Config} {world : World} {flight : Flight} {change : Change}

/-- A turn begins an attempt only by passing the check of the breaker. -/
theorem Turn.passes_of_isAttempting (turn : Turn world flight change)
    (after : change.flight.stage.isAttempting = true) :
    flight.stage.isAttempting = true ∨
      (world.breaker.isOpen flight.host world.now).1 = false ∧
        (world.apply change).failureLog = world.failureLog := by
  cases turn with
  | pass stage closed => exact .inr ⟨closed, rfl⟩
  | enter stage => exact .inl (by rw [stage]; rfl)
  | queue stage => exact .inl (by rw [stage]; rfl)
  | claim stage => exact .inl (by rw [stage]; rfl)
  | wait stage => exact .inl (by rw [stage]; rfl)
  | tend stage => exact .inl (by rw [stage]; rfl)
  | _ => cases after

namespace World

/-- A turn that begins no attempt ends at least as many as it records failures. -/
theorem Guarded.settle {bound : BreakerStrategy} {host : HostKey} {most : Nat}
    (guarded : world.Guarded bound host most) (orderly : world.Orderly config)
    (member : flight ∈ world.flights) (turn : Turn world flight change)
    (began : change.flight.stage.isAttempting = true → flight.stage.isAttempting = true) :
    (world.apply change).Guarded bound host most := by
  have counts := countP_apply orderly.nodup member turn.id_eq
    fun flight => flight.host == host && flight.stage.isAttempting
  have fewer : (if (change.flight.host == host && change.flight.stage.isAttempting) = true
      then 1 else 0) ≤
      if (flight.host == host && flight.stage.isAttempting) = true then 1 else 0 := by
    rw [turn.host_eq]
    cases after : change.flight.stage.isAttempting with
    | false => simp
    | true => simp [began after]
  unfold Guarded attempting at guarded ⊢
  rcases turn.accounts with ⟨log, _⟩ | ⟨log, _⟩ | ⟨exchange, stage, ended, log, _⟩
  · rw [log, now_apply]
    omega
  · rw [log, now_apply]
    omega
  · have record := FailureLog.count_record_le world.failureLog (some bound) flight.host host
      world.now
    have leaves : change.flight.stage.isAttempting = false := by
      rcases ended with result | ⟨made, wake, pausing⟩
      · cases after : change.flight.stage <;> simp_all [Stage.result?, Stage.isAttempting]
      · rw [pausing]
        rfl
    have attempted : flight.stage.isAttempting = true := by rw [stage]; rfl
    rw [log, now_apply]
    rw [leaves, attempted, Bool.and_false, Bool.and_true] at counts
    by_cases here : flight.host = host
    · subst here
      simp only [if_true, Bool.false_eq_true, if_false, BEq.rfl] at counts record
      omega
    · simp only [Ne.symm here, if_false] at record
      simp only [beq_eq_false_iff_ne.2 here, Bool.false_eq_true, if_false] at counts
      omega

/-- A check is passed only while fewer failures count than the bound. -/
theorem Faithful.count_lt {bound : BreakerStrategy} (faithful : world.Faithful config)
    (breaker : config.breaker = some bound) {host : HostKey}
    (closed : (world.breaker.isOpen host world.now).1 = false) :
    world.failureLog.count (some bound) host world.now < bound.maxErrors := by
  rw [faithful.isOpen_eq, breaker, beq_eq_false_iff_ne] at closed
  by_contra enough
  exact closed (if_pos (Nat.le_of_not_lt enough))

/-- Every move keeps the guard, if no more requests than allowed are under way after it. -/
theorem Guarded.move {after : World} {bound : BreakerStrategy} {host : HostKey} {most : Nat}
    (guarded : world.Guarded bound host most) (orderly : world.Orderly config)
    (faithful : world.Faithful config) (breaker : config.breaker = some bound)
    (few : after.executing host ≤ most) (move : Move world after) :
    after.Guarded bound host most := by
  cases move with
  | idle => exact guarded
  | submit id request watcher =>
      simpa [Guarded, attempting, failureLog, FailureLog.note, note, Stage.isAttempting]
        using guarded
  | @turn flight change member turn =>
      by_cases began : change.flight.stage.isAttempting = true → flight.stage.isAttempting = true
      · exact guarded.settle orderly member turn began
      · rw [Classical.not_imp] at began
        obtain ⟨closed, log⟩ := (turn.passes_of_isAttempting began.1).resolve_left began.2
        -- Only a passed check begins an attempt, and there the guard is not kept but made anew:
        -- few failures count, and the attempts are bounded by the requests under way.
        by_cases here : flight.host = host
        · have below := faithful.count_lt breaker (here ▸ closed)
          have attempts := (world.apply change).attempting_le_executing host
          unfold Guarded
          rw [log, now_apply]
          omega
        · have counts := countP_apply orderly.nodup member turn.id_eq
            fun flight => flight.host == host && flight.stage.isAttempting
          have elsewhere : (flight.host == host) = false := beq_eq_false_iff_ne.2 here
          simp only [turn.host_eq, elsewhere, Bool.false_and, Bool.false_eq_true, if_false,
            Nat.add_zero] at counts
          unfold Guarded attempting at guarded ⊢
          rw [log, now_apply, counts]
          exact guarded
  | cancel => exact guarded
  | shutDown => exact guarded
  | closeGate => exact guarded
  | ask => exact guarded
  | advance span =>
      have aged := world.failureLog.count_le_of_le (some bound) host
        (Nat.le_add_right world.now span)
      exact (Nat.add_le_add_right aged _).trans guarded

end World

/-- A move leaves the record of failures alone or adds one failure that happens now. -/
theorem Move.failureLog_eq {after : World} (move : Move world after) :
    after.failureLog = world.failureLog ∨
      ∃ host, after.failureLog = world.failureLog.record host world.now ∧
        after.now = world.now := by
  cases move with
  | @turn flight change _ turn =>
      rcases turn.accounts with ⟨log, _⟩ | ⟨log, _⟩ | ⟨_, _, _, log, _⟩
      · exact .inl log
      · exact .inl log
      · exact .inr ⟨flight.host, log, rfl⟩
  | _ => exact .inl rfl

namespace World

/-- A failure that falls into a window shorter than the age finds all others of that window still
young, so that the limit of the young ones holds for the window. -/
theorem Windowed.move {after : World} {bound : BreakerStrategy} {host : HostKey} {limit : Nat}
    (windowed : world.Windowed bound host limit)
    (limited : after.failureLog.count (some bound) host after.now ≤ limit)
    (move : Move world after) : after.Windowed bound host limit := by
  rcases move.failureLog_eq with same | ⟨failed, record, now⟩
  · unfold Windowed
    rw [same]
    exact windowed
  · intro first last short
    by_cases here : failed = host ∧ first ≤ world.now ∧ world.now ≤ last
    -- The window holds the present, so whatever lies in it is younger than the age.
    · refine Nat.le_trans (List.countP_mono_left fun moment _ inside => ?_) limited
      rw [now]
      simp only [decide_eq_true_eq] at inside ⊢
      omega
    · refine Nat.le_trans (Nat.le_of_eq ?_) (windowed first last short)
      rw [record]
      by_cases mine : failed = host
      · subst mine
        have outside : ¬ (first ≤ world.now ∧ world.now ≤ last) := fun inside =>
          here ⟨rfl, inside⟩
        rw [FailureLog.record_self, List.countP_append, List.countP_singleton,
          if_neg (by simpa using outside), Nat.add_zero]
      · rw [FailureLog.record_other _ (Ne.symm mine)]

/-- **A host is protected.** Let a run have at most so many requests to a host under way at any
moment. Then, whatever the order of its steps and however often requests are repeated: the failures
of the host that count exceed the bound of the breaker by less than that number; no window of time
that is shorter than the age has more recorded failures of the host than that; and with one request
at a time no such window has more than the bound. -/
theorem host_protected (config : Config) (bound : BreakerStrategy)
    (breaker : config.breaker = some bound) (host : HostKey) (most : Nat) (labels : List Label)
    (few : ∀ front, front <+: labels → ((new config).run front).executing host ≤ most) :
    let world := (new config).run labels
    (world.breaker.failureCount host world.now).1 ≤ bound.maxErrors - 1 + most ∧
    (∀ first last, last - first < bound.age.nanos →
      ((world.failureLog host).countP fun moment => decide (first ≤ moment ∧ moment ≤ last)) ≤
        bound.maxErrors - 1 + most) ∧
    (most = 1 → ∀ first last, last - first < bound.age.nanos →
      ((world.failureLog host).countP fun moment => decide (first ≤ moment ∧ moment ≤ last)) ≤
        bound.maxErrors) := by
  intro world
  have kept := invariant_along config
    (fun world => world.Orderly config ∧ world.Faithful config ∧
      world.Guarded bound host most ∧ world.Windowed bound host (bound.maxErrors - 1 + most))
    (fun world => world.executing host ≤ most)
    ⟨orderly_new config, faithful_new config, Nat.zero_le _, fun _ _ _ => Nat.zero_le _⟩
    ?_ labels few
  · obtain ⟨_, faithful, guarded, windowed⟩ := kept
    refine ⟨?_, windowed, fun one first last short => ?_⟩
    · rw [faithful.remembers.failureCount_eq, faithful.strategy, breaker]
      exact (Nat.le_add_right _ _).trans guarded
    · have positive := bound.maxErrors_pos
      refine (windowed first last short).trans ?_
      omega
  · rintro before after ⟨orderly, faithful, guarded, windowed⟩ fewAfter move
    have guardedAfter := guarded.move orderly faithful breaker fewAfter move
    exact ⟨orderly.move move, faithful.move move, guardedAfter,
      windowed.move ((Nat.le_add_right _ _).trans guardedAfter) move⟩

/-! ### A stubborn request

A request that may be attempted three times, to a host that is left alone after two failures. -/

/-- Two failures within a microsecond open a host. -/
def twoErrors : BreakerStrategy := ⟨2, Span.ofNanos 1000, Nat.succ_pos 1⟩

/-- One attempt that comes to the transport and fails, and the look at the pause after it. -/
def failingAttempt : List Label :=
  [.poll 0, .poll 0, .poll 0, .complete 0 (.error (Failure.connection "refused")), .poll 0]

/-- A request that may be attempted three times and keeps failing. -/
def stubbornRun : List Label :=
  [.submit 0
      { method := .get, url := plainUrl, options := { retry := some ⟨3, Span.zero⟩ } } none,
    .poll 0] ++ failingAttempt ++ failingAttempt ++ failingAttempt

/-- The client of that run. -/
def watchfulConfig : Config := { breaker := some twoErrors }

/-- The world after that run. -/
def stubbornWorld : World := (new watchfulConfig).run stubbornRun

/-- The request is alone, so no more failures are recorded than open the host. -/
theorem host_protected_stubbornRun :
    (∀ front, front <+: stubbornRun →
      ((new watchfulConfig).run front).executing (.ofUrl plainUrl) ≤ 1) ∧
    (stubbornWorld.breaker.failureCount (.ofUrl plainUrl) stubbornWorld.now).1 ≤ 2 ∧
    ((stubbornWorld.failureLog (.ofUrl plainUrl)).countP fun moment =>
      decide (0 ≤ moment ∧ moment ≤ 999)) ≤ 2 := by
  have alone : ∀ front, front <+: stubbornRun →
      ((new watchfulConfig).run front).executing (.ofUrl plainUrl) ≤ 1 := by
    intro front shorter
    have every : ∀ front ∈ stubbornRun.inits,
        ((new watchfulConfig).run front).executing (.ofUrl plainUrl) ≤ 1 := by
      decide +kernel
    exact every front ((List.mem_inits front stubbornRun).2 shorter)
  obtain ⟨young, _, window⟩ :=
    host_protected watchfulConfig twoErrors rfl _ 1 stubbornRun alone
  exact ⟨alone, young, window rfl 0 999 (by decide)⟩

end World

end ResilientHttp
