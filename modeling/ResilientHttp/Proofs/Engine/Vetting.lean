import ResilientHttp.Proofs.Engine.Course
import ResilientHttp.Proofs.Engine.Protection

/-!
# What the transport is called on the strength of

The breaker is asked before an attempt asks for its slot, and the attempt may wait for the slot as
long as it takes. So a call of the transport rests on a check of the past. Every call has one
(`World.exists_check`): the check found the host closed, it is the last thing that was told of the
request before the call, and no other call rests on it.

What the check said may be out of date when the call is made, and there is one reason for that
alone: failures that other attempts at the host recorded in between. With time fewer of the old
failures count, so the failures that count at the call are at most those that counted at the check
and those recorded since (`FailureLog.count_ofJournal_append_le`); with none recorded since the host
is still closed (`World.calls_vetted`). The run `lateRun` shows that one failure in between is enough
for a call to a host that is open.

A check that finds the host open leads to no call: the request has its result at once.
-/

set_option autoImplicit false

namespace ResilientHttp

namespace FailureLog

/-- The failures that count now are at most those that counted before and those recorded since. -/
theorem count_ofJournal_append_le (since earlier : List (Nat × Signal))
    (strategy : Option BreakerStrategy) (host : HostKey) {before now : Nat} (order : before ≤ now) :
    (ofJournal (since ++ earlier)).count strategy host now ≤
      (ofJournal earlier).count strategy host before +
        since.countP fun entry => entry.2.isRecordOf host := by
  refine Nat.le_trans ?_ (Nat.add_le_add_right (count_le_of_le _ strategy host order) _)
  cases strategy with
  | none => exact Nat.zero_le _
  | some bound =>
      simp only [count, ofJournal_append, List.countP_append]
      refine Nat.add_le_add_left (List.countP_le_length.trans (Nat.le_of_eq ?_)) _
      rw [List.length_reverse, List.length_map, List.countP_eq_length_filter]

theorem state_eq_closed_iff (log : FailureLog) (strategy : Option BreakerStrategy) (host : HostKey)
    (now : Nat) :
    log.state strategy host now = .closed ↔
      ∀ bound, strategy = some bound → log.count strategy host now < bound.maxErrors := by
  cases strategy with
  | none => simp [state]
  | some bound => simp [state]

end FailureLog

namespace World

variable {config : Config}

/-- A passed check in the journal is the answer of a breaker that was asked in the run and found the
host closed. -/
theorem closed_of_sending {labels : List Label} {recent earlier : List (Nat × Signal)}
    {moment id attempt : Nat} {host : HostKey}
    (told : ((new config).run labels).journal =
      recent ++ (moment, .sending id attempt host) :: earlier) :
    ∃ front label back, labels = front ++ label :: back ∧
      ((new config).run front).now = moment ∧ ((new config).run front).journal = earlier ∧
      (((new config).run front).step label).journal =
        (moment, .sending id attempt host) :: earlier ∧
      (((new config).run front).breaker.state host moment).1 = .closed := by
  obtain ⟨front, label, back, split, rfl, journal, grown, flight, _, change, turn, present⟩ :=
    exists_turn_of_journal config told (by simp)
      fun _ _ _ turn present => (turn.of_sending present).2.2.1
  obtain ⟨_, rfl, _, closed⟩ := turn.of_sending present
  refine ⟨front, label, back, split, rfl, journal, grown, ?_⟩
  rw [Breaker.isOpen_fst, beq_eq_false_iff_ne] at closed
  cases state : (((new config).run front).breaker.state flight.host
      ((new config).run front).now).1 with
  | closed => rfl
  | opened => exact absurd state closed

/-- A call in the journal was made in the run, for a request that had passed its check and whose
check is the last thing that was told of it. -/
theorem exists_check {labels : List Label} {recent earlier : List (Nat × Signal)}
    {moment id attempt : Nat} {request : Request} {watched : Bool} {inFlight : Nat}
    (told : ((new config).run labels).journal =
      recent ++ (moment, .called id attempt request watched inFlight) :: earlier) :
    ∃ front label back, labels = front ++ label :: back ∧
      ((new config).run front).now = moment ∧ ((new config).run front).journal = earlier ∧
      (((new config).run front).step label).journal =
        (moment, .called id attempt request watched inFlight) :: earlier ∧
      ∃ since checked older, checked ≤ moment ∧
        earlier = since ++ (checked, .sending id attempt (.ofUrl request.url)) :: older ∧
        ∀ entry ∈ since, entry.2.id? ≠ some id := by
  obtain ⟨front, label, back, split, rfl, journal, grown, flight, member, change, turn, present⟩ :=
    exists_turn_of_journal config told (by simp)
      fun _ _ _ turn present => (turn.of_called present).2.2.1
  obtain ⟨rfl, rfl, _, stage, _⟩ := turn.of_called present
  refine ⟨front, label, back, split, rfl, journal, grown, ?_⟩
  have tale := (narrated_run config front).told flight member
  have sent : Sent config flight ((new config).run front).now attempt
      (((new config).run front).tale flight.id) := by
    rcases stage with entering | queued
    · rwa [entering] at tale
    · rwa [queued] at tale
  obtain ⟨rounds, past, checked, begun, _, _, order, whole⟩ := sent
  have url : flight.prepared.url = flight.request.url := by rw [begun.prepared]; rfl
  -- The tale ends with the check, so nothing about the request is newer in the journal.
  have newest := congrArg List.reverse whole
  rw [World.tale, List.reverse_reverse, List.reverse_append, List.reverse_singleton,
    List.singleton_append, List.filter_eq_cons_iff] at newest
  obtain ⟨since, older, parts, others, _, _⟩ := newest
  rw [url, ← journal]
  exact ⟨since, checked, older, order, parts, fun entry member about =>
    others entry member (beq_iff_eq.2 about)⟩

/-- A request whose host is open has its result at once and for good. -/
theorem rejected_for_good {world : World} (orderly : world.Orderly config) {id made : Nat}
    {flight : Flight} (found : world.flight? id = some flight)
    (stage : flight.stage = .checking made)
    (opened : (world.breaker.state flight.host world.now).1 = .opened) (rest : List Label) :
    ((world.step (.poll id)).run rest).flight? id =
        some (flight.onward (.finished (.error .circuitOpen))) ∧
      ((world.step (.poll id)).run rest).tale id = world.tale id ++
        [(world.now, .rejected id flight.host),
          (world.now, flight.verdict world.now (.error .circuitOpen))] := by
  obtain ⟨member, rfl⟩ := mem_of_flight? found
  have answer : (world.breaker.isOpen flight.host world.now).1 = true := by
    rw [Breaker.isOpen_fst, opened]
    rfl
  have turn : Turn world flight _ := .reject stage answer
  have rejected : world.step (.poll flight.id) = world.apply
      { signals :=
          [.rejected flight.id flight.host, flight.verdict world.now (.error .circuitOpen)]
        gate := world.gate
        breaker := (world.breaker.isOpen flight.host world.now).2
        flight := flight.onward (.finished (.error .circuitOpen)) } := by
    simp only [step, onFlight, found, poll, stage, check, answer, if_true]
    rfl
  have result := flight?_apply orderly.nodup member turn
  rw [← rejected] at result
  have same := sameFor_run_of_ended (orderly.move (world.step_move (.poll flight.id))) result rfl
    rest
  refine ⟨same.1.trans result, same.2.trans ?_⟩
  rw [rejected]
  exact tale_apply turn

/-- **Every call rests on a check that found the host closed.** In every run of a client, whatever
the order of its steps:

* For every call of the transport the journal before it ends with a check of that attempt and with
  signals about others. At the check the host of the request was closed. At the call no more
  failures of the host count than at the check and were recorded since, and if none was recorded
  since the host is still closed.
* A request whose check finds the host open has its result at once, and keeps it. The transport is
  not called for it again. -/
theorem calls_vetted (config : Config) (labels : List Label) :
    (∀ recent earlier moment id attempt request watched inFlight,
      ((new config).run labels).journal =
        recent ++ (moment, .called id attempt request watched inFlight) :: earlier →
      ∃ front label back since asking check between,
        labels = front ++ label :: back ∧ front = asking ++ check :: between ∧
        let host := HostKey.ofUrl request.url
        let world := (new config).run front
        let asked := (new config).run asking
        world.now = moment ∧ world.journal = earlier ∧
        (world.step label).journal =
          (moment, .called id attempt request watched inFlight) :: earlier ∧
        (asked.step check).journal = (asked.now, .sending id attempt host) :: asked.journal ∧
        earlier = since ++ (asked.now, .sending id attempt host) :: asked.journal ∧
        (∀ entry ∈ since, entry.2.id? ≠ some id) ∧
        (asked.breaker.state host asked.now).1 = .closed ∧
        (world.breaker.failureCount host moment).1 ≤
          (asked.breaker.failureCount host asked.now).1 +
            (since.countP fun entry => entry.2.isRecordOf host) ∧
        ((∀ entry ∈ since, entry.2.isRecordOf host = false) →
          (world.breaker.state host moment).1 = .closed)) ∧
    (∀ id flight made, ((new config).run labels).flight? id = some flight →
      flight.stage = .checking made →
      let world := (new config).run labels
      (world.breaker.state flight.host world.now).1 = .opened →
      ∀ rest, let later := (world.step (.poll id)).run rest
        later.flight? id = some (flight.onward (.finished (.error .circuitOpen))) ∧
        later.tale id = world.tale id ++
          [(world.now, .rejected id flight.host),
            (world.now, flight.verdict world.now (.error .circuitOpen))]) := by
  refine ⟨?_, ?_⟩
  · intro recent earlier moment id attempt request watched inFlight told
    obtain ⟨front, label, back, split, rfl, journal, called, since, checked, older, order, parts,
      others⟩ := exists_check told
    obtain ⟨asking, check, between, front', rfl, rfl, sending, closed⟩ :=
      closed_of_sending (journal.trans parts)
    have now := faithful_run config front
    have before := faithful_run config asking
    have count : (((new config).run front).breaker.failureCount (.ofUrl request.url)
        ((new config).run front).now).1 ≤
          (((new config).run asking).breaker.failureCount (.ofUrl request.url)
            ((new config).run asking).now).1 +
          since.countP fun entry => entry.2.isRecordOf (.ofUrl request.url) := by
      rw [now.remembers.failureCount_eq, before.remembers.failureCount_eq, now.strategy,
        before.strategy, failureLog, journal, parts]
      exact FailureLog.count_ofJournal_append_le since _ config.breaker _ order
    refine ⟨front, label, back, since, asking, check, between, split, front', rfl, journal, called,
      sending, parts, others, closed, count, fun none => ?_⟩
    have fewer : (since.countP fun entry => entry.2.isRecordOf (.ofUrl request.url)) = 0 :=
      List.countP_eq_zero.2 fun entry member => by simp [none entry member]
    rw [fewer, Nat.add_zero, now.remembers.failureCount_eq, before.remembers.failureCount_eq,
      now.strategy, before.strategy] at count
    rw [before.remembers.state_eq, before.strategy, FailureLog.state_eq_closed_iff] at closed
    rw [now.remembers.state_eq, now.strategy, FailureLog.state_eq_closed_iff]
    exact fun bound strategy => count.trans_lt (closed bound strategy)
  · intro id flight made found stage world opened rest
    exact rejected_for_good (orderly_run config labels) found stage opened rest

/-! ### A call that comes too late

Two requests to one host, and one slot. The second has passed its check and waits for the slot when
the first fails. The failure opens the host and hands over the slot at the same moment. -/

/-- One failure within a microsecond opens a host. -/
def oneError : BreakerStrategy := ⟨1, Span.ofNanos 1000, Nat.one_pos⟩

/-- A client with one slot, whose hosts are opened by one failure. -/
def narrowConfig : Config := { breaker := some oneError, maxConcurrent := some 1 }

/-- The first request fails while the second waits for its slot. -/
def lateRun : List Label :=
  [.submit 0 { method := .get, url := plainUrl } none,
    .submit 1 { method := .get, url := plainUrl } none,
    .poll 0, .poll 0, .poll 0, .poll 0, .poll 1, .poll 1, .poll 1,
    .complete 0 (.error (Failure.connection "refused"))]

/-- A third request comes in and is looked at for the first time. -/
def turnedAway : List Label := [.submit 2 { method := .get, url := plainUrl } none, .poll 2]

/-- The world in which the second request is about to look whether its slot has come. -/
def lateWorld : World := (new narrowConfig).run lateRun

/-- The slot has come, and the transport is called. -/
theorem called_lateWorld :
    ∃ request watched inFlight, request.url = plainUrl ∧
      (lateWorld.step (.poll 1)).journal =
        (lateWorld.now, .called 1 1 request watched inFlight) :: lateWorld.journal :=
  ⟨_, _, _, rfl, rfl⟩

/-- The third request is about to have its host checked. -/
theorem checking_turnedAway :
    ∃ flight, ((new narrowConfig).run (lateRun ++ turnedAway)).flight? 2 = some flight ∧
      flight.stage = .checking 0 ∧ flight.host = .ofUrl plainUrl :=
  ⟨_, rfl, rfl, rfl⟩

/-- The call rests on a check that found the host closed, and a third request, whose check comes
after the failure, is turned away for good. -/
theorem calls_vetted_lateRun :
    (∃ asking since,
      (((new narrowConfig).run asking).breaker.state (.ofUrl plainUrl)
        ((new narrowConfig).run asking).now).1 = .closed ∧
      lateWorld.journal =
        since ++ (((new narrowConfig).run asking).now, .sending 1 1 (.ofUrl plainUrl)) ::
          ((new narrowConfig).run asking).journal) ∧
    (∃ flight : Flight, ∀ rest,
      ((((new narrowConfig).run (lateRun ++ turnedAway)).step (.poll 2)).run rest).flight? 2 =
        some (flight.onward (.finished (.error .circuitOpen)))) := by
  refine ⟨?_, ?_⟩
  · obtain ⟨request, watched, inFlight, url, called⟩ := called_lateWorld
    have whole : ((new narrowConfig).run (lateRun ++ [.poll 1])).journal =
        [] ++ (lateWorld.now, .called 1 1 request watched inFlight) :: lateWorld.journal := by
      rw [run_append, run_cons, run_nil, List.nil_append]
      exact called
    have vetted := (calls_vetted narrowConfig (lateRun ++ [.poll 1])).1 [] lateWorld.journal
      lateWorld.now 1 1 request watched inFlight
    obtain ⟨_, _, _, since, asking, _, _, _, _, _, _, _, _, parts, _, closed, _⟩ := vetted whole
    rw [url] at parts closed
    exact ⟨asking, since, closed, parts⟩
  · have opened : (((new narrowConfig).run (lateRun ++ turnedAway)).breaker.state (.ofUrl plainUrl)
        ((new narrowConfig).run (lateRun ++ turnedAway)).now).1 = .opened := by
      decide +kernel
    obtain ⟨flight, found, stage, host⟩ := checking_turnedAway
    rw [← host] at opened
    exact ⟨flight, fun rest =>
      ((calls_vetted narrowConfig (lateRun ++ turnedAway)).2 2 flight 0 found stage opened rest).1⟩

/-- Not every call finds the host closed: a failure while the request waits for its slot opens
it. -/
theorem not_closed_at_every_call :
    ¬ ∀ (config : Config) (labels : List Label) (label : Label) (moment id attempt : Nat)
        (request : Request) (watched : Bool) (inFlight : Nat),
      let world := (new config).run labels
      (world.step label).journal =
        (moment, .called id attempt request watched inFlight) :: world.journal →
      (world.breaker.state (.ofUrl request.url) world.now).1 = .closed := by
  intro every
  obtain ⟨request, watched, inFlight, url, called⟩ := called_lateWorld
  have closed := every narrowConfig lateRun (.poll 1) _ _ _ _ _ _ called
  have opened : (lateWorld.breaker.state (.ofUrl plainUrl) lateWorld.now).1 = .opened := by
    decide +kernel
  rw [url] at closed
  cases opened.symm.trans closed

end World

end ResilientHttp
