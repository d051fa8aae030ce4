import ResilientHttp.Proofs.Breaker.FullHistory
import ResilientHttp.Proofs.Engine.Turn

/-!
# The journal as a record of failures

The journal says of every failure that was recorded when it was recorded and for which host, so it
gives a full log of failures (`FailureLog.ofJournal`). The breaker of a client remembers this log
(`World.faithful_run`), although it forgets whatever is aged, and therefore every check in the
journal has the answer that the failures before it call for: an attempt is sent when fewer young
failures than the bound stand before it in the journal, and a request is turned away when as many
do (`World.checked_run`).
-/

set_option autoImplicit false

namespace ResilientHttp

namespace FailureLog

/-- The log after a signal: only a recorded failure extends it. -/
def note (log : FailureLog) (now : Nat) : Signal → FailureLog
  | .recorded _ _ host => log.record host now
  | _ => log

/-- The log of all failures that a journal tells of. -/
def ofJournal : List (Nat × Signal) → FailureLog
  | [] => fun _ => []
  | (now, signal) :: earlier => (ofJournal earlier).note now signal

@[simp]
theorem ofJournal_cons (now : Nat) (signal : Signal) (earlier : List (Nat × Signal)) :
    ofJournal ((now, signal) :: earlier) = (ofJournal earlier).note now signal := rfl

end FailureLog

/-- Whether the signal says that a failure of the host was recorded. -/
def Signal.isRecordOf (host : HostKey) : Signal → Bool
  | .recorded _ _ other => other == host
  | _ => false

namespace FailureLog

/-- What a longer journal adds to the log of a host are the moments at which it says that a failure
of the host was recorded. -/
theorem ofJournal_append (recent earlier : List (Nat × Signal)) (host : HostKey) :
    ofJournal (recent ++ earlier) host =
      ofJournal earlier host ++
        ((recent.filter fun entry => entry.2.isRecordOf host).map (·.1)).reverse := by
  induction recent with
  | nil => simp
  | cons first rest ih =>
      obtain ⟨moment, signal⟩ := first
      rw [List.cons_append, ofJournal_cons]
      cases signal with
      | recorded id attempt other =>
          by_cases here : other = host
          · subst here
            simp [note, record_self, ih, Signal.isRecordOf]
          · simp [note, record_other _ (Ne.symm here), ih, Signal.isRecordOf, here]
      | _ => simp [note, ih, Signal.isRecordOf]

/-- The state of a host is a matter of its own failures. -/
theorem state_congr {one two : FailureLog} {host : HostKey} (same : one host = two host)
    (strategy : Option BreakerStrategy) (now : Nat) :
    one.count strategy host now = two.count strategy host now ∧
      one.state strategy host now = two.state strategy host now := by
  have count : ∀ bound, one.count bound host now = two.count bound host now := by
    intro bound
    simp only [FailureLog.count, same]
  exact ⟨count strategy, by simp only [FailureLog.state, count]⟩

end FailureLog

namespace World

/-- Every failure that was recorded, by host. -/
def failureLog (world : World) : FailureLog := FailureLog.ofJournal world.journal

end World

/-! ## What a turn does to the record -/

variable {world : World} {flight : Flight} {change : Change}

/-- The ways in which a turn deals with failures: it leaves record and breaker alone, it asks the
breaker, or it ends an exchange and records its failure in both. -/
theorem Turn.accounts (turn : Turn world flight change) :
    ((world.apply change).failureLog = world.failureLog ∧ change.breaker = world.breaker) ∨
    ((world.apply change).failureLog = world.failureLog ∧
      change.breaker = (world.breaker.isOpen flight.host world.now).2) ∨
    (∃ exchange, flight.stage = .exchanging exchange ∧
      (change.flight.stage.result?.isSome = true ∨
        ∃ made wake, change.flight.stage = .pausing made wake) ∧
      (world.apply change).failureLog = world.failureLog.record flight.host world.now ∧
      change.breaker = world.breaker.recordFailure flight.host world.now) := by
  have consulted : ∀ urls : List Url,
      FailureLog.ofJournal
          (((urls.map (.consulted flight.id)).map fun signal => (world.now, signal)).reverse ++
            world.journal) = world.failureLog := by
    intro urls
    induction urls using List.reverseRecOn with
    | nil => rfl
    | append_singleton front last ih => simpa [FailureLog.note] using ih
  cases turn with
  | start stage => exact .inl ⟨consulted _, rfl⟩
  | reject stage => exact .inr (.inl ⟨rfl, rfl⟩)
  | pass stage => exact .inr (.inl ⟨rfl, rfl⟩)
  | retry stage outcome retryable =>
      rw [Outcome.isRetryable_eq_isHostFailure] at retryable
      refine .inr (.inr ⟨_, stage, .inr ⟨_, _, rfl⟩, ?_, ?_⟩)
      · simp only [World.failureLog, World.journal_apply, Flight.recordings, retryable]
        rfl
      · simp only [World.accounted, retryable, if_true]
  | resolve stage outcome =>
      cases failure : Outcome.isHostFailure outcome with
      | true =>
          refine .inr (.inr ⟨_, stage, .inl rfl, ?_, ?_⟩)
          · simp only [World.failureLog, World.journal_apply, Flight.recordings, failure]
            rfl
          · simp only [World.accounted, failure, if_true]
      | false =>
          refine .inl ⟨?_, ?_⟩
          · simp only [World.failureLog, World.journal_apply, Flight.recordings, failure]
            rfl
          · simp only [World.accounted, failure, Bool.false_eq_true, if_false]
  | _ => exact .inl ⟨rfl, rfl⟩

/-! ## The breaker remembers the record -/

namespace World

/-- The breaker has the strategy of the configuration and remembers the failures of the journal. -/
structure Faithful (config : Config) (world : World) : Prop where
  strategy : world.breaker.strategy = config.breaker
  remembers : world.breaker.Remembers world.failureLog world.now

theorem faithful_new (config : Config) : (new config).Faithful config where
  strategy := rfl
  remembers := Breaker.remembers_new config.breaker 0

namespace Faithful

variable {config : Config}

theorem move {after : World} (faithful : world.Faithful config) (move : Move world after) :
    after.Faithful config := by
  have remembers := faithful.remembers
  cases move with
  | idle => exact faithful
  | submit => exact ⟨faithful.strategy, remembers⟩
  | @turn flight change _ turn =>
      rcases turn.accounts with ⟨log, same⟩ | ⟨log, asked⟩ | ⟨_, _, _, log, recorded⟩
      · refine ⟨?_, ?_⟩
        · rw [breaker_apply, same]
          exact faithful.strategy
        · rw [breaker_apply, same, log]
          exact remembers
      · refine ⟨?_, ?_⟩
        · rw [breaker_apply, asked]
          exact (Breaker.strategy_state _ _ _).trans faithful.strategy
        · rw [breaker_apply, asked, log]
          exact remembers.isOpen flight.host
      · refine ⟨?_, ?_⟩
        · rw [breaker_apply, recorded]
          exact (Breaker.strategy_recordFailure _ _ _).trans faithful.strategy
        · rw [breaker_apply, recorded, log]
          exact remembers.recordFailure flight.host
  | cancel => exact ⟨faithful.strategy, remembers⟩
  | shutDown => exact ⟨faithful.strategy, remembers⟩
  | closeGate => exact ⟨faithful.strategy, remembers⟩
  | ask host =>
      exact ⟨(Breaker.strategy_state _ _ _).trans faithful.strategy, remembers.state host⟩
  | advance span => exact ⟨faithful.strategy, remembers.later (Nat.le_add_right _ span)⟩

/-- The breaker of a client answers as the record of the journal calls for. -/
theorem isOpen_eq (faithful : world.Faithful config) (host : HostKey) :
    (world.breaker.isOpen host world.now).1 =
      (world.failureLog.state config.breaker host world.now == .opened) := by
  rw [Breaker.isOpen_fst, faithful.remembers.state_eq, faithful.strategy]

/-- Where the same failures of a host were recorded, the breakers answer alike for it, now and at
any later time. -/
theorem answers_eq {other : World} {host : HostKey} (faithful : world.Faithful config)
    (otherFaithful : other.Faithful config) (now : other.now = world.now)
    (log : other.failureLog host = world.failureLog host) (span : Nat) :
    (other.breaker.failureCount host (other.now + span)).1 =
      (world.breaker.failureCount host (world.now + span)).1 ∧
    (other.breaker.state host (other.now + span)).1 =
      (world.breaker.state host (world.now + span)).1 := by
  have later := faithful.remembers.later (Nat.le_add_right world.now span)
  have otherLater := otherFaithful.remembers.later (Nat.le_add_right other.now span)
  rw [later.failureCount_eq, later.state_eq, otherLater.failureCount_eq, otherLater.state_eq,
    faithful.strategy, otherFaithful.strategy, now]
  exact FailureLog.state_congr log _ _

end Faithful

/-- **The breaker of a client remembers every failure of its journal.** -/
theorem faithful_run (config : Config) (labels : List Label) :
    ((new config).run labels).Faithful config :=
  invariant config (Faithful config) (faithful_new config)
    (fun _ _ faithful move => faithful.move move) labels

end World

/-! ## Every check has the answer that the record calls for -/

/-- What a check says is what the record before it calls for; other signals say nothing. -/
def Signal.Warranted (strategy : Option BreakerStrategy) (now : Nat)
    (earlier : List (Nat × Signal)) : Signal → Prop
  | .sending _ _ host => (FailureLog.ofJournal earlier).state strategy host now = .closed
  | .rejected _ host => (FailureLog.ofJournal earlier).state strategy host now = .opened
  | _ => True

/-- Every check in a journal has the answer that the record before it calls for. -/
def Checked (strategy : Option BreakerStrategy) (journal : List (Nat × Signal)) : Prop :=
  ∀ now signal earlier, (now, signal) :: earlier <:+ journal →
    signal.Warranted strategy now earlier

namespace Checked

variable {strategy : Option BreakerStrategy} {journal : List (Nat × Signal)}

theorem nil : Checked strategy [] := fun now signal earlier suffix => by
  simp at suffix

theorem cons (checked : Checked strategy journal) (now : Nat) (signal : Signal)
    (warranted : signal.Warranted strategy now journal) :
    Checked strategy ((now, signal) :: journal) := by
  intro moment other earlier suffix
  rcases List.suffix_cons_iff.1 suffix with same | older
  · obtain ⟨entry, rfl⟩ := List.cons.inj same
    obtain ⟨rfl, rfl⟩ := Prod.mk.inj entry
    exact warranted
  · exact checked moment other earlier older

/-- Signals that are no checks need no warrant. -/
theorem append (checked : Checked strategy journal) (now : Nat) (signals : List Signal)
    (warranted : ∀ signal ∈ signals, ∀ earlier, signal.Warranted strategy now earlier) :
    Checked strategy ((signals.map fun signal => (now, signal)).reverse ++ journal) := by
  induction signals generalizing journal with
  | nil => exact checked
  | cons first rest ih =>
      rw [List.map_cons, List.reverse_cons, List.append_assoc]
      exact ih (checked.cons now first (warranted first (List.mem_cons_self ..) journal))
        fun signal member => warranted signal (List.mem_cons_of_mem first member)

end Checked

namespace World

/-- What a turn says of the breaker is what the record calls for. -/
theorem Faithful.checked_apply {config : Config} (faithful : world.Faithful config)
    (checked : Checked config.breaker world.journal) (turn : Turn world flight change) :
    Checked config.breaker (world.apply change).journal := by
  have answer := faithful.isOpen_eq flight.host
  rw [journal_apply]
  cases turn with
  | reject stage opened =>
      rw [opened, eq_comm, beq_iff_eq] at answer
      have turned := checked.cons world.now (.rejected flight.id flight.host) answer
      exact turned.append world.now [flight.verdict world.now (.error .circuitOpen)]
        (by simp [Flight.verdict, Signal.Warranted])
  | pass stage closed =>
      rw [closed, eq_comm, beq_eq_false_iff_ne] at answer
      refine checked.cons world.now (.sending flight.id _ flight.host) ?_
      cases state : world.failureLog.state config.breaker flight.host world.now with
      | closed => exact state
      | opened => exact absurd state answer
  | start stage =>
      exact checked.append _ _ (by simp [Signal.Warranted])
  | retry stage =>
      refine checked.append _ _ ?_
      unfold Flight.recordings
      split <;> simp [Signal.Warranted]
  | resolve stage =>
      refine checked.append _ _ ?_
      unfold Flight.recordings
      split <;> simp [Signal.Warranted, Flight.verdict]
  | _ => exact checked.append _ _ (by simp [Signal.Warranted, Flight.verdict, World.moving])

/-- **Every check in the journal of a client has the answer that the failures before it call
for.** -/
theorem checked_run (config : Config) (labels : List Label) :
    Checked config.breaker ((new config).run labels).journal := by
  have both := invariant config
    (fun world => world.Faithful config ∧ Checked config.breaker world.journal)
    ⟨faithful_new config, .nil⟩ ?_ labels
  · exact both.2
  · rintro before after ⟨faithful, checked⟩ move
    refine ⟨faithful.move move, ?_⟩
    cases move with
    | submit => exact checked.cons _ _ trivial
    | turn _ turn => exact faithful.checked_apply checked turn
    | shutDown => exact checked.cons _ _ trivial
    | _ => exact checked

end World

end ResilientHttp
