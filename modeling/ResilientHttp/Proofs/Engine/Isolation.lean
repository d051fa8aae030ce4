import ResilientHttp.Proofs.Engine.Mirror
import ResilientHttp.Proofs.Engine.Shutdown
import Mathlib.Data.List.Infix

/-!
# Hosts do not interfere

Requests to different hosts share a client: one breaker with one memory, one gate, one clock. Take a
run of a client whose gate has no bound, without a shutdown, and leave out every step of requests to
other hosts than one (`World.keeps`). What is left is a run in which the requests to that host stand
at every moment as they do in the whole run, with the same tales, and in which the host is open at the
same times (`World.hosts_independent`).

Two things make it so. While fewer requests are live than an unbounded gate has slots, nobody waits
there, so the answer of the gate is the same with and without the others. And the breaker remembers
the full history of every host, whatever it drops, so its answer for the host depends on the failures
of that host alone.
-/

set_option autoImplicit false

namespace ResilientHttp

variable {config : Config} {world : World} {flight : Flight} {change : Change}

/-! ## A gate without a bound -/

/-- Whether a step closes the gate. -/
def Label.closesGate : Label → Bool
  | shutDown => true
  | closeGate => true
  | _ => false

/-- Where a slot is free no turn makes a request wait at the gate. -/
theorem Turn.unqueued (turn : Turn world flight change)
    (free : ∀ taker, (world.gate.enter taker).1 = .admitted)
    (unqueued : flight.stage.isQueued = false) : change.flight.stage.isQueued = false := by
  cases turn with
  | queue stage live answer => cases (free flight.id).symm.trans answer
  | wait stage => simp [stage, Stage.isQueued] at unqueued
  | _ => rfl

namespace World

/-- The number of requests that are on their way. -/
def liveCount (world : World) : Nat := world.flights.countP (·.stage.isLive)

/-- An open gate without a bound has a free slot for everybody who comes. -/
theorem Orderly.admits (orderly : world.Orderly config) (unbounded : config.maxConcurrent = none)
    (opened : world.gate.closed = false) (few : world.liveCount < Gate.maxSlots) (taker : Nat) :
    (world.gate.enter taker).1 = .admitted := by
  have slots : world.gate.slots = Gate.maxSlots := by rw [orderly.slots, unbounded]; rfl
  have inFlight : world.gate.inFlight ≤ world.liveCount := by
    rw [orderly.inFlight_eq]
    refine List.countP_mono_left fun flight _ slot => ?_
    cases stage : flight.stage <;> simp_all [hasSlot, Stage.isLive]
  have free : 0 < world.gate.free := by
    unfold Gate.inFlight at inFlight
    omega
  rcases world.gate.enter_cases taker with ⟨closed, _⟩ | ⟨_, _, admitted⟩ | ⟨_, noneFree, _⟩
  · cases opened.symm.trans closed
  · rw [admitted]
  · omega

theorem opened_step (opened : world.gate.closed = false) {label : Label}
    (harmless : label.closesGate = false) : (world.step label).gate.closed = false := by
  cases addressed : label.id? with
  | some id =>
      rcases step_eq_onFlight addressed with ⟨request, watcher, rfl⟩ | ⟨action, turns, same⟩
      · simp only [step]
        split <;> exact opened
      · rw [same, onFlight]
        split
        · rename_i flight _
          rcases turns world flight with idle | ⟨change, turn, after⟩
          · rw [idle]
            exact opened
          · rw [after]
            exact turn.closed_eq.trans opened
        · exact opened
  | none =>
      cases label with
      | cancel token =>
          simp only [step]
          split <;> exact opened
      | advance span => exact opened
      | ask url => exact opened
      | shutDown => cases harmless
      | closeGate => cases harmless
      | _ => cases addressed

/-- A gate that nobody closes stays open. -/
theorem opened_run (config : Config) {labels : List Label}
    (harmless : ∀ label ∈ labels, label.closesGate = false) :
    ((new config).run labels).gate.closed = false := by
  induction labels using List.reverseRecOn with
  | nil => rfl
  | append_singleton front last ih =>
      rw [run_append]
      exact opened_step (ih fun label member => harmless label (List.mem_append_left _ member))
        (harmless last (by simp))

/-- At an open gate without a bound nobody waits. -/
theorem unqueued_run (unbounded : config.maxConcurrent = none) {labels : List Label}
    (harmless : ∀ label ∈ labels, label.closesGate = false)
    (few : ∀ front, front <+: labels → ((new config).run front).liveCount < Gate.maxSlots) :
    ∀ flight ∈ ((new config).run labels).flights, flight.stage.isQueued = false := by
  induction labels using List.reverseRecOn with
  | nil => exact fun _ member => by cases member
  | append_singleton front last ih =>
      have shorter : front <+: front ++ [last] := List.prefix_append ..
      have before := ih (fun label member => harmless label (List.mem_append_left _ member))
        fun part early => few part (early.trans shorter)
      have opened := opened_run config fun label member =>
        harmless label (List.mem_append_left _ member)
      have free := (orderly_run config front).admits unbounded opened (few front shorter)
      rw [run_append, run_cons, run_nil]
      have move := ((new config).run front).step_move last
      generalize ((new config).run front).step last = after at move
      cases move with
      | submit id request watcher =>
          intro flight member
          rcases List.mem_append.1 member with old | new
          · exact before flight old
          · rw [List.mem_singleton.1 new]
            rfl
      | turn present turn =>
          intro flight member
          rcases (mem_flights_apply _ _ flight).1 member with ⟨rfl, _⟩ | ⟨old, _⟩
          · exact turn.unqueued free (before _ present)
          · exact before flight old
      | _ => exact before

/-! ## The run without the others -/

/-- The requests to a host. -/
def requestsTo (world : World) (host : HostKey) : List Flight :=
  world.flights.filter (·.host == host)

/-- Whether a step is left when the steps of requests to other hosts are left out, for a run that
ends in this world. A token is cancelled only if one of the requests to the host has it. Steps that
concern no request, such as the questions of observers, are left. -/
def keeps (world : World) (host : HostKey) : Label → Bool
  | .cancel token => (world.requestsTo host).any (·.token? == some token)
  | label => label.id?.all fun id => (world.requestsTo host).any (·.id == id)

/-- The tokens of the requests to a host. -/
def tokensTo (world : World) (host : HostKey) : List Token :=
  (world.requestsTo host).filterMap (·.token?)

theorem mem_requestsTo {host : HostKey} :
    flight ∈ world.requestsTo host ↔ flight ∈ world.flights ∧ flight.host = host := by
  rw [requestsTo, List.mem_filter, beq_iff_eq]

theorem mem_tokensTo {host : HostKey} {token : Token} :
    token ∈ world.tokensTo host ↔
      ∃ flight ∈ world.flights, flight.host = host ∧ flight.token? = some token := by
  simp only [tokensTo, List.mem_filterMap, mem_requestsTo, and_assoc]

theorem keeps_cancel {host : HostKey} {token : Token} :
    world.keeps host (.cancel token) = true ↔ token ∈ world.tokensTo host := by
  simp [keeps, tokensTo]

theorem keeps_of_id? {host : HostKey} {label : Label} {id : Nat} (addressed : label.id? = some id) :
    world.keeps host label = true ↔
      ∃ flight ∈ world.flights, flight.host = host ∧ flight.id = id := by
  cases label <;> simp_all [keeps, mem_requestsTo, Label.id?, and_assoc]

/-- A request stays, with what was handed in. -/
theorem exists_flight_run (orderly : world.Orderly config) (member : flight ∈ world.flights)
    (labels : List Label) :
    ∃ later ∈ (world.run labels).flights,
      later.id = flight.id ∧ later.request = flight.request := by
  induction labels generalizing world flight with
  | nil => exact ⟨flight, member, rfl, rfl⟩
  | cons label rest ih =>
      have next : ∃ later ∈ (world.step label).flights,
          later.id = flight.id ∧ later.request = flight.request := by
        have move := world.step_move label
        generalize world.step label = after at move
        cases move with
        | submit => exact ⟨flight, List.mem_append_left _ member, rfl, rfl⟩
        | @turn moved change present turn =>
            by_cases same : flight.id = change.flight.id
            · have identical : flight = moved :=
                List.inj_on_of_nodup_map orderly.nodup member present (same.trans turn.id_eq)
              refine ⟨change.flight, (mem_flights_apply _ _ _).2 (.inl ⟨rfl, flight, member, same⟩),
                same.symm, ?_⟩
              rw [turn.request_eq, identical]
            · exact ⟨flight, (mem_flights_apply _ _ _).2 (.inr ⟨member, same⟩), rfl, rfl⟩
        | _ => exact ⟨flight, member, rfl, rfl⟩
      obtain ⟨middle, present, id, request⟩ := next
      obtain ⟨later, inside, sameId, sameRequest⟩ :=
        ih (orderly.move (world.step_move label)) present
      exact ⟨later, inside, sameId.trans id, sameRequest.trans request⟩

/-- The requests of a world are among those of a later one. -/
def Foresees (world last : World) : Prop :=
  ∀ flight ∈ world.flights, ∃ later ∈ last.flights,
    later.id = flight.id ∧ later.request = flight.request

/-- Where a step is left, the request under its number is to the host. -/
theorem Foresees.own {last : World} (foresees : world.Foresees last)
    (nodup : (last.flights.map (·.id)).Nodup) {host : HostKey} {label : Label} {id : Nat}
    (addressed : label.id? = some id) (kept : last.keeps host label = true) :
    ∀ flight ∈ world.flights, flight.id = id →
      flight.host = host ∧ ∀ token, flight.token? = some token → token ∈ last.tokensTo host := by
  rintro flight member rfl
  obtain ⟨later, present, sameId, sameRequest⟩ := foresees flight member
  obtain ⟨known, inside, here, same⟩ := (keeps_of_id? addressed).1 kept
  obtain rfl : later = known :=
    List.inj_on_of_nodup_map nodup present inside (sameId.trans same.symm)
  have host_eq : flight.host = later.host := by simp only [Flight.host, sameRequest]
  have token_eq : flight.token? = later.token? := by simp only [Flight.token?, sameRequest]
  refine ⟨host_eq.trans here, fun token named => ?_⟩
  exact mem_tokensTo.2 ⟨later, present, here, token_eq.symm.trans named⟩

/-- Where a step is left out, the request under its number is to another host. -/
theorem Foresees.elsewhere {last : World} (foresees : world.Foresees last) {host : HostKey}
    {label : Label} {id : Nat} (addressed : label.id? = some id)
    (left : ¬ last.keeps host label = true) :
    ∀ flight ∈ world.flights, flight.id = id → flight.host ≠ host := by
  rintro flight member rfl here
  obtain ⟨later, present, sameId, sameRequest⟩ := foresees flight member
  have host_eq : later.host = flight.host := by simp only [Flight.host, sameRequest]
  exact left ((keeps_of_id? addressed).2 ⟨later, present, host_eq.trans here, sameId⟩)

/-- A request that comes in under a new number is there after the step. -/
theorem mem_flights_submit {id : Nat} {request : Request} {watcher : Option Handler}
    (absent : world.flight? id = none) :
    { id, request, watcher : Flight } ∈ (world.step (.submit id request watcher)).flights := by
  simp [step, absent]

/-! ## The two runs -/

/-- Fewer requests are live without the others. -/
theorem Mirrors.liveCount_le {host : HostKey} {tokens : List Token} {whole part : World}
    (mirrors : Mirrors host tokens whole part) : part.liveCount ≤ whole.liveCount := by
  rw [liveCount, mirrors.flights]
  exact List.filter_sublist.countP_le

/-- A step that is left keeps the relation. -/
theorem Mirrors.keep {host : HostKey} {last whole part : World} {label : Label}
    (mirrors : Mirrors host (last.tokensTo host) whole part) (foresees : whole.Foresees last)
    (foreseesAfter : (whole.step label).Foresees last) (nodup : (last.flights.map (·.id)).Nodup)
    (harmless : label.closesGate = false) (kept : last.keeps host label = true)
    (answers : (part.breaker.isOpen host part.now).1 = (whole.breaker.isOpen host whole.now).1)
    (free : ∀ taker, (whole.gate.enter taker).1 = .admitted)
    (otherFree : ∀ taker, (part.gate.enter taker).1 = .admitted)
    (unqueued : ∀ flight ∈ whole.flights, flight.stage.isQueued = false) :
    Mirrors host (last.tokensTo host) (whole.step label) (part.step label) := by
  cases addressed : label.id? with
  | some id =>
      have own := foresees.own nodup addressed kept
      have ownAfter := foreseesAfter.own nodup addressed kept
      refine mirrors.step addressed (fun flight member same => (own flight member same).1) ?_
        answers free otherFree unqueued
      rintro request watcher rfl absent
      exact ownAfter _ (mem_flights_submit absent) rfl
  | none =>
      cases label with
      | cancel token => exact mirrors.cancel token
      | advance span => exact mirrors.advance span
      | ask url => exact mirrors.sharing ..
      | shutDown => cases harmless
      | closeGate => cases harmless
      | _ => cases addressed

/-- A step that is left out keeps the relation. -/
theorem Mirrors.leave {host : HostKey} {last whole part : World} {label : Label}
    (mirrors : Mirrors host (last.tokensTo host) whole part) (foresees : whole.Foresees last)
    (foreseesAfter : (whole.step label).Foresees last) (left : ¬ last.keeps host label = true) :
    Mirrors host (last.tokensTo host) (whole.step label) part := by
  cases addressed : label.id? with
  | some id =>
      refine mirrors.stepElsewhere addressed (foresees.elsewhere addressed left) ?_
      rintro request watcher rfl absent
      exact foreseesAfter.elsewhere addressed left _ (mem_flights_submit absent) rfl
  | none =>
      cases label with
      | cancel token => exact mirrors.cancelElsewhere fun named => left (keeps_cancel.2 named)
      | _ => simp_all [keeps, Label.id?]

/-- **A run without the steps of requests to other hosts mirrors the whole run**, front by front. -/
theorem mirrors_run (unbounded : config.maxConcurrent = none) (host : HostKey) {labels : List Label}
    (harmless : ∀ label ∈ labels, label.closesGate = false)
    (few : ∀ front, front <+: labels → ((new config).run front).liveCount < Gate.maxSlots)
    {front : List Label} (shorter : front <+: labels) :
    Mirrors host (((new config).run labels).tokensTo host) ((new config).run front)
      ((new config).run (front.filter (((new config).run labels).keeps host))) := by
  induction front using List.reverseRecOn with
  | nil => exact .new config host _
  | append_singleton front label ih =>
      have before : front <+: labels := (List.prefix_append front [label]).trans shorter
      have mirrors := ih before
      have early : ∀ other ∈ front, other.closesGate = false := fun other member =>
        harmless other (before.subset member)
      have harmlessNow := harmless label (shorter.subset (by simp))
      have foresees : ∀ part, part <+: labels →
          ((new config).run part).Foresees ((new config).run labels) := by
        rintro part ⟨back, rfl⟩ flight member
        rw [run_append]
        exact exists_flight_run (orderly_run config part) member back
      have now := foresees front before
      have next := foresees (front ++ [label]) shorter
      rw [run_append] at next ⊢
      rw [List.filter_append]
      cases kept : ((new config).run labels).keeps host label with
      | true =>
          have fewer := mirrors.liveCount_le.trans_lt (few front before)
          have opened := opened_run config early
          have otherEarly : ∀ other ∈ front.filter (((new config).run labels).keeps host),
              other.closesGate = false := fun other member =>
            early other (List.mem_filter.1 member).1
          have otherOpened := opened_run config otherEarly
          have answers := ((faithful_run config front).answers_eq (faithful_run config _)
            mirrors.now mirrors.log 0).2
          rw [List.filter_cons_of_pos kept, List.filter_nil, run_append]
          exact mirrors.keep now next (orderly_run config labels).nodup harmlessNow kept
            (congrArg (· == Circuit.opened) answers)
            ((orderly_run config front).admits unbounded opened (few front before))
            ((orderly_run config _).admits unbounded otherOpened fewer)
            (unqueued_run unbounded early fun part shorter => few part (shorter.trans before))
      | false =>
          rw [List.filter_cons_of_neg (Bool.not_eq_true _ ▸ kept), List.filter_nil,
            List.append_nil]
          exact mirrors.leave now next (Bool.not_eq_true _ ▸ kept)

end World

/-! ## What there is to be seen of a host -/

/-- What there is to be seen of the requests to one host: the time, where the requests stand, and
their tales but for the numbers of slots in flight. -/
structure Outlook where
  now : Nat
  requests : List Flight
  tales : List (List (Nat × Signal))

/-- Whether a step is one of the transport. -/
def Label.isAnswer : Label → Bool
  | notify _ _ => true
  | pend _ => true
  | complete _ _ => true
  | _ => false

namespace World

/-- What there is to be seen of the requests to a host. -/
def outlook (world : World) (host : HostKey) : Outlook where
  now := world.now
  requests := world.requestsTo host
  tales := (world.requestsTo host).map fun flight => world.ownTale flight.id

/-- Every step of the transport in a run is one that the transport may take at the sight of the
requests to the same host, so what other hosts are asked is no matter to it. -/
def Heeds (transport : Outlook → Label → Prop) (config : Config) (labels : List Label) : Prop :=
  ∀ front label, front ++ [label] <+: labels → label.isAnswer = true →
    ∀ flight ∈ ((new config).run front).flights, label.id? = some flight.id →
      transport (((new config).run front).outlook flight.host) label

/-- Of the host both worlds show the same. -/
theorem Mirrors.outlook_eq {host : HostKey} {tokens : List Token} {whole part : World}
    (mirrors : Mirrors host tokens whole part) (nodup : (whole.flights.map (·.id)).Nodup) :
    part.flights = whole.requestsTo host ∧ part.outlook host = whole.outlook host := by
  have requests : part.requestsTo host = whole.requestsTo host := by
    simp only [requestsTo, mirrors.flights, List.filter_filter, Bool.and_self]
  refine ⟨mirrors.flights, ?_⟩
  simp only [outlook, requests, mirrors.now, Outlook.mk.injEq, true_and]
  refine List.map_congr_left fun flight member =>
    mirrors.tales flight.id fun other present same => ?_
  obtain ⟨inside, here⟩ := mem_requestsTo.1 member
  rw [List.inj_on_of_nodup_map nodup present inside same]
  exact here

/-- Whatever is left of a run up to one of its steps is what is left of a front of the run. -/
theorem exists_front_of_filter {kept : Label → Bool} {labels front : List Label} {label : Label}
    (shorter : front ++ [label] <+: labels.filter kept) :
    ∃ whole, whole ++ [label] <+: labels ∧ whole.filter kept = front := by
  obtain ⟨back, split⟩ := shorter
  rw [List.append_assoc, List.singleton_append] at split
  obtain ⟨early, late, rfl, before, after⟩ := List.filter_eq_append_iff.1 split.symm
  obtain ⟨skipped, rest, rfl, none, _, _⟩ := List.filter_eq_cons_iff.1 after
  refine ⟨early ++ skipped, ⟨rest, by simp⟩, ?_⟩
  rw [List.filter_append, before, List.filter_eq_nil_iff.2 none, List.append_nil]

/-- **Hosts do not interfere.** Let the gate of a client have no bound, and let a run of it close the
gate nowhere, have fewer live requests at any moment than an unbounded gate has slots, and have a
transport that heeds no other host. Leave out of the run every step of a request to another host, and
every cancelled token that no request to the host has. What is left is a run of the same client and
the same transport. After every front of the run, the requests that are there without the others are
the requests to the host that are there with them, at the same stages and with the same results; they
have the same tales, so they made the same attempts at the same moments with the same outcomes; and
from then on, as long as nothing happens, the host has the same number of failures and the same
state. -/
theorem hosts_independent (config : Config) (unbounded : config.maxConcurrent = none)
    (transport : Outlook → Label → Prop) (labels : List Label)
    (harmless : ∀ label ∈ labels, label.closesGate = false)
    (few : ∀ front, front <+: labels → ((new config).run front).liveCount < Gate.maxSlots)
    (heeds : Heeds transport config labels) (host : HostKey) :
    let kept := ((new config).run labels).keeps host
    Heeds transport config (labels.filter kept) ∧
    ∀ front, front <+: labels →
      let whole := (new config).run front
      let part := (new config).run (front.filter kept)
      part.flights = whole.requestsTo host ∧
      part.outlook host = whole.outlook host ∧
      ∀ span,
        (part.breaker.failureCount host (part.now + span)).1 =
          (whole.breaker.failureCount host (whole.now + span)).1 ∧
        (part.breaker.state host (part.now + span)).1 =
          (whole.breaker.state host (whole.now + span)).1 := by
  intro kept
  have mirrors := fun front (shorter : front <+: labels) =>
    mirrors_run unbounded host harmless few shorter
  refine ⟨?_, fun front shorter => ?_⟩
  · intro front label shorter answer flight member addressed
    obtain ⟨whole, shorterWhole, rfl⟩ := exists_front_of_filter shorter
    have before := mirrors whole ((List.prefix_append whole [label]).trans shorterWhole)
    obtain ⟨present, here⟩ := before.mem_flights.1 member
    have allowed := heeds whole label shorterWhole answer flight present addressed
    rw [here] at allowed ⊢
    rwa [(before.outlook_eq (orderly_run config whole).nodup).2]
  · have before := mirrors front shorter
    obtain ⟨flights, outlook⟩ := before.outlook_eq (orderly_run config front).nodup
    exact ⟨flights, outlook,
      (faithful_run config _).answers_eq (faithful_run config _) before.now before.log⟩

/-! ### Two hosts

The first request fails and opens its host. The second, to another host, fails as well, is to be
repeated, and is cancelled while it pauses. -/

/-- A client that leaves a host alone after one failure. -/
def touchyConfig : Config := { breaker := some ⟨1, Span.ofNanos 1000, Nat.one_pos⟩ }

/-- A URL of another host. -/
def otherUrl : Url := { scheme := "http", host := some "b", hasAuthority := true }

/-- The steps of both requests, one after the other. -/
def mixedRun : List Label :=
  [.submit 0 { method := .get, url := plainUrl } none,
    .submit 1
      { method := .get, url := otherUrl
        options := { cancellation := some "stop", retry := some ⟨2, Span.ofNanos 50⟩ } } none,
    .poll 1, .poll 0, .poll 1, .poll 0, .poll 1, .poll 0, .poll 1, .poll 0,
    .complete 1 (.error (Failure.connection "refused")), .advance 10,
    .complete 0 (.error (Failure.connection "refused")), .cancel "stop", .poll 1]

/-- Without the second request the first fails at the same moment, and its host is open as well. -/
theorem hosts_independent_mixedRun :
    let kept := ((new touchyConfig).run mixedRun).keeps (.ofUrl plainUrl)
    let part := (new touchyConfig).run (mixedRun.filter kept)
    (mixedRun.filter kept).length = 7 ∧
    (part.breaker.failureCount (.ofUrl plainUrl) (part.now + 0)).1 = 1 ∧
    (part.breaker.state (.ofUrl plainUrl) (part.now + 0)).1 = .opened := by
  intro kept part
  have few : ∀ front, front <+: mixedRun →
      ((new touchyConfig).run front).liveCount < Gate.maxSlots := by
    intro front shorter
    have every : ∀ front ∈ mixedRun.inits,
        ((new touchyConfig).run front).liveCount < Gate.maxSlots := by
      decide +kernel
    exact every front ((List.mem_inits front mixedRun).2 shorter)
  -- This transport answers any request that it can see.
  have heeds : Heeds (fun outlook label => ∃ flight ∈ outlook.requests, label.id? = some flight.id)
      touchyConfig mixedRun :=
    fun _ _ _ _ flight member named => ⟨flight, mem_requestsTo.2 ⟨member, rfl⟩, named⟩
  obtain ⟨_, fronts⟩ := hosts_independent touchyConfig rfl _ mixedRun (by decide) few heeds
    (.ofUrl plainUrl)
  obtain ⟨_, _, answers⟩ := fronts mixedRun (List.prefix_refl _)
  obtain ⟨count, state⟩ := answers 0
  exact ⟨by decide +kernel, count.trans (by decide +kernel), state.trans (by decide +kernel)⟩

end World

end ResilientHttp
