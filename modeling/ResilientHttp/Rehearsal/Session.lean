import ResilientHttp.Engine.World
import ResilientHttp.Rehearsal.Script

/-!
# Rehearsals

A rehearsal plays scripts against a client and decides in which order its concurrent steps happen.
The clock stands still while any task can run, and then jumps to the next moment at which a timer
fires. Tasks that can run stand in a queue, first in first out, and a task that has its turn goes on
until it has to wait.

The director of the rehearsal, who hands in requests and waits for them, is not in the queue. What
the director waits for is looked at before the tasks whenever the clock has jumped, and otherwise
when the queue is empty. If the director still waits and nothing can happen any more, the rehearsal
is stuck; a timer that fires only after the horizon does not count as something that can happen.

A task waits for a slot, for a timer, for its token, or forever. When the gate grants a slot or is
closed, the tasks that wait there join the queue in the order in which they came; when a token is
cancelled, those that listen to it do, in the order in which they began to listen; and when the
clock jumps, those whose timers fire do, in the order in which the timers were set.

The transport of the client is either the script itself, or another client over the script. In the
second case each call of the outer client is a request of the inner one.
-/

set_option autoImplicit false

namespace ResilientHttp

/-- What stands between the client and the script. -/
inductive Stagehand where
  /-- The transport is the script. -/
  | direct
  /-- The transport is a service, which is given no handler for notices. -/
  | service
  /-- The transport is another client, used as a service. -/
  | client (config : Config)

/-- A request to rehearse. -/
structure Errand where
  request : Except UrlFault Request
  watcher : Option Handler := none
  script : Script := []

/-- A call of the script, as far as it has been played. -/
structure Play where
  rest : Scene
  /-- The end of the sleep that is going on. -/
  wake : Option Nat := none

/-- What a call of the script looked like. -/
structure Call where
  moment : Nat
  watched : Bool
  inFlight : Nat
  request : Request

/-- A task: a request with its script, and what was seen of it. -/
structure Task where
  name : Option String
  errand : Errand
  play : Option Play := none
  /-- The request of the inner client for the current call of the outer one. -/
  inner : Option Nat := none
  /-- The calls of the script, the latest first. -/
  calls : List Call := []
  /-- The answers to the reported progress, the latest first. -/
  notes : List (Except Failure Unit) := []
  /-- The URLs for which a credential was asked, the latest first. -/
  asked : List Url := []
  /-- When the current wait began, as a place in the order of all waits. -/
  since : Nat := 0
  /-- When the request got its result. -/
  finished : Option Nat := none
  /-- Whether the task was joined. -/
  joined : Bool := false
  /-- Whether the caller walks away when the task has its next turn. -/
  aborting : Bool := false

/-- The state of a rehearsal. -/
structure Session where
  stagehand : Stagehand
  outer : World
  inner : Option World
  tasks : Array Task := #[]
  /-- The tasks that can run. -/
  ready : List Nat := []
  /-- The task that has its turn, and whether it has been woken since. -/
  turning : Option (Nat × Bool) := none
  /-- The task that the director runs, and whether it can run. -/
  directed : Option (Nat × Bool) := none
  /-- The timers in the order in which they were set: whose they are, and when they fire. -/
  alarms : List (Nat × Nat) := []
  /-- The signals of both clients, the newest first. -/
  signals : List Signal := []
  /-- The largest number of calls of the script that went on at once. -/
  peak : Nat := 0
  /-- The number of waits so far. -/
  waits : Nat := 0
  /-- The number of requests to the inner client so far. -/
  innerRequests : Nat := 0
  /-- Whether the director waited for something that could not happen. -/
  stuck : Bool := false

namespace Session

/-- How many turns a rehearsal takes before it gives up. -/
def patience : Nat := 10000000

/-- The moment up to which a rehearsal waits for timers: a year of 365 days. -/
def horizon : Nat := (Span.ofSeconds 31536000).nanos

/-- A new rehearsal, or nothing if a gate would have too many slots. -/
def new? (config : Config) (stagehand : Stagehand) : Option Session := do
  let outer ← World.new? config
  match stagehand with
  | .client innerConfig => some { stagehand, outer, inner := some (← World.new? innerConfig) }
  | _ => some { stagehand, outer, inner := none }

def now (session : Session) : Nat := session.outer.now

/-- Changes a task. -/
def onTask (session : Session) (task : Nat) (change : Task → Task) : Session :=
  { session with tasks := session.tasks.modify task change }

/-- Puts a task into the queue unless it is there. The director's own task has no place in it, and
the task that has its turn gets its place when the turn is over. -/
def wake (session : Session) (task : Nat) : Session :=
  if (session.directed.map (·.1)) = some task then
    { session with directed := some (task, true) }
  else if (session.turning.map (·.1)) = some task then
    { session with turning := some (task, true) }
  else if session.ready.contains task then session
  else { session with ready := session.ready ++ [task] }

/-- Puts several tasks into the queue, one after another. -/
def wakeAll (session : Session) (tasks : List Nat) : Session := tasks.foldl wake session

/-! ## Steps of the two clients -/

/-- Which of the two clients takes a step. -/
inductive Side where
  | outer
  | inner
  deriving DecidableEq

/-- The client on a side. -/
def world? (session : Session) : Side → Option World
  | .outer => some session.outer
  | .inner => session.inner

/-- The side whose transport is the script. -/
def scriptSide (session : Session) : Side :=
  if session.inner.isSome then .inner else .outer

/-- The task of a request. -/
def taskOf? (session : Session) (side : Side) (id : Nat) : Option Nat :=
  match side with
  | .outer => some id
  | .inner => session.tasks.findIdx? fun task => task.inner = some id

/-- The number of calls of the script that go on. -/
def playing (session : Session) : Nat :=
  session.tasks.foldl (fun count task => if task.play.isSome then count + 1 else count) 0

/-- A call of the script begins. -/
def beginPlay (session : Session) (task : Nat) (request : Request) (watched : Bool) : Session :=
  let given := match session.stagehand with
    | .service => false
    | _ => watched
  let call : Call :=
    { moment := session.now, watched := given, inFlight := session.outer.gate.inFlight, request }
  let begun := session.onTask task fun state =>
    { state with
      play := some { rest := state.errand.script.scene state.calls.length }
      calls := call :: state.calls }
  { begun with peak := max begun.peak begun.playing }

/-- Takes note of a signal. -/
def hear (session : Session) (side : Side) (signal : Signal) : Session :=
  let heard := { session with signals := signal :: session.signals }
  match signal.id?.bind (session.taskOf? side) with
  | none => heard
  | some task =>
    match signal with
    | .consulted _ url => heard.onTask task fun state => { state with asked := url :: state.asked }
    | .called _ _ request watched _ =>
      if side = session.scriptSide then heard.beginPlay task request watched else heard
    | .ended _ _ _ => heard.onTask task fun state => { state with play := none }
    | .finished _ _ _ _ =>
      if side = .outer then
        heard.onTask task fun state => { state with finished := some session.now }
      else heard
    | _ => heard

/-- The tasks that a step of a client woke: those that were granted a slot, and those that waited
when the gate was closed. -/
def wokenBy (session : Session) (side : Side) (before after : World) : List Nat :=
  let granted := after.gate.granted.filter (!before.gate.granted.contains ·)
  let sentAway := if after.gate.closed && !before.gate.closed then before.gate.queue else []
  (granted ++ sentAway).filterMap (session.taskOf? side)

/-- A client takes a step. -/
def stepSide (session : Session) (side : Side) (label : Label) : Session :=
  match session.world? side with
  | none => session
  | some before =>
    let after := before.step label
    let kept := { after with journal := [] }
    let stepped := match side with
      | .outer => { session with outer := kept }
      | .inner => { session with inner := some kept }
    let heard := (after.journal.reverse.map (·.2)).foldl (·.hear side ·) stepped
    heard.wakeAll (session.wokenBy side before after)

/-- Gives up the inner client's request for a call of the outer one that is over. -/
def abandonInner (session : Session) (task : Nat) : Session :=
  match (session.tasks[task]?).bind (·.inner) with
  | some id =>
    (session.stepSide .inner (.drop id)).onTask task fun state => { state with inner := none }
  | none => session

/-- The tasks that listen to a token, in the order in which they began. -/
def listeners (session : Session) (token : Token) : List Nat :=
  let listening := session.outer.flights.filter fun flight =>
    flight.stage.isLive && flight.token? == some token
  let since (id : Nat) : Nat := ((session.tasks[id]?).map (·.since)).getD 0
  (listening.map (·.id)).mergeSort (fun left right => since left ≤ since right)

/-- Somebody cancels a token. -/
def cancel (session : Session) (token : Token) : Session :=
  if session.outer.cancelled.contains token then session
  else
    ((session.stepSide .outer (.cancel token)).stepSide .inner (.cancel token)).wakeAll
      (session.listeners token)

/-! ## The turn of a task -/

/-- The stage of a task's request on a side. -/
def stage? (session : Session) (side : Side) (id : Nat) : Option Stage :=
  ((session.world? side).bind (·.flight? id)).map (·.stage)

/-- The place where a request waits, if it waits: what for, and for which attempt. -/
def waitOf : Option Stage → Option (Nat × Nat)
  | some (.queued attempt) => some (0, attempt)
  | some (.exchanging exchange) => some (1, exchange.attempt)
  | some (.pausing made _) => some (2, made)
  | _ => none

/-- A step of a task's request on the outer side; a new wait gets its place in the order. -/
def stepOuter (session : Session) (task : Nat) (label : Label) : Session :=
  let stepped := session.stepSide .outer label
  let before := waitOf (session.stage? .outer task)
  let after := waitOf (stepped.stage? .outer task)
  if after.isSome && before ≠ after then
    { stepped with waits := stepped.waits + 1 }.onTask task fun state =>
      { state with since := stepped.waits }
  else stepped

/-- Whether a task's request has an exchange on a side. -/
def isExchanging (session : Session) (side : Side) (id : Nat) : Bool :=
  ((session.stage? side id).bind Stage.exchange?).isSome

/-- A step that may be the end of an exchange. On the outer side this is also the end of what is
left of the inner client's work for it, and that work is given up before the outer slot is. -/
def answerSide (session : Session) (side : Side) (task : Nat) (label : Label) : Session :=
  match side with
  | .outer =>
    let stepped := session.stepOuter task label
    if stepped.isExchanging .outer task then stepped
    else (session.abandonInner task).stepOuter task label
  | .inner => session.stepSide .inner label

/-- Plays the next action of a call. The answer says whether the task can go on. -/
def perform (session : Session) (side : Side) (id task : Nat) (play : Play) : Session × Bool :=
  let next (session : Session) (rest : Scene) : Session :=
    session.onTask task fun state => { state with play := state.play.map fun _ => { rest } }
  let answer (session : Session) (outcome : Outcome) : Session × Bool :=
    (session.answerSide side task (.complete id outcome), true)
  let wait (session : Session) : Session × Bool :=
    let waiting := session.answerSide side task (.pend id)
    (waiting, !waiting.isExchanging side id)
  match play.rest with
  | [] => answer session (.ok {})
  | .sleep span :: rest =>
    let wake := play.wake.getD (Clock.deadline session.now span)
    if Clock.due wake session.now then (next session rest, true)
    else
      wait (session.onTask task fun state =>
        { state with play := some { play with wake := some wake } })
  | .hang :: _ => wait session
  | .cancel token :: rest => ((next session rest).cancel token, true)
  | .closeGate :: rest => ((next session rest).stepSide .outer .closeGate, true)
  | .progress notice heeded :: rest =>
    let call? := (session.tasks[task]?).bind (·.calls.head?)
    match (session.world? side).bind (·.flight? id), call? with
    | some flight, some call =>
      if call.watched then
        let said := World.answer flight notice
        let told := (session.stepSide side (.notify id notice)).onTask task fun state =>
          { state with notes := said :: state.notes }
        match said, heeded with
        | .error failure, true => answer told (.error failure)
        | _, _ => (next told rest, true)
      else (next session rest, true)
    | _, _ => (next session rest, true)
  | .reply response :: _ => answer session (.ok response)
  | .fail failure :: _ => answer session (.error failure)
  | .consult scene :: rest =>
    match (session.tasks[task]?).bind (·.calls.head?) with
    | some call => (next session (scene call.request ++ rest), true)
    | none => (next session rest, true)

/-- The inner client goes on with a call of the outer one. -/
def innerTurn (session : Session) (task : Nat) : Session × Bool :=
  match session.tasks[task]? with
  | none => (session, false)
  | some state =>
    match state.inner with
    | none =>
      match (session.outer.flight? task).map (·.prepared) with
      | some request =>
        let id := session.innerRequests
        let bound := { session with innerRequests := id + 1 }.onTask task fun state =>
          { state with inner := some id }
        (bound.stepSide .inner (.submit id request none), true)
      | none => (session, false)
    | some id =>
      let rest (session : Session) : Session × Bool :=
        let waiting := session.answerSide .outer task (.pend task)
        (waiting, !waiting.isExchanging .outer task)
      match session.stage? .inner id with
      | some (.finished result) =>
        (session.answerSide .outer task (.complete task result), true)
      | some (.exchanging exchange) =>
        if exchange.attended then
          match state.play with
          | some play =>
            let (played, goesOn) := session.perform .inner id task play
            if goesOn then (played, true) else rest played
          | none => (session, false)
        else (session.stepSide .inner (.poll id), true)
      | some (.queued _) =>
        let polled := session.stepSide .inner (.poll id)
        if ((polled.stage? .inner id).map Stage.isQueued).getD false then rest polled
        else (polled, true)
      | some (.pausing made _) =>
        let polled := session.stepSide .inner (.poll id)
        if waitOf (polled.stage? .inner id) = some (2, made) then rest polled else (polled, true)
      | some .dropped => rest session
      | _ => (session.stepSide .inner (.poll id), true)

/-- One move of a task. The answer says whether it can go on. -/
def move (session : Session) (task : Nat) : Session × Bool :=
  match session.tasks[task]? with
  | none => (session, false)
  | some state =>
    if state.aborting then
      (((session.abandonInner task).stepOuter task (.drop task)).onTask task fun state =>
        { state with aborting := false }, false)
    else match session.stage? .outer task with
    | none =>
      match state.errand.request with
      | .error _ =>
        (session.onTask task fun state => { state with finished := some session.now }, false)
      | .ok request => (session.stepOuter task (.submit task request state.errand.watcher), true)
    | some (.exchanging exchange) =>
      if exchange.attended then
        if session.inner.isSome then session.innerTurn task
        else
          match state.play with
          | some play => session.perform .outer task task play
          | none => (session, false)
      else (session.answerSide .outer task (.poll task), true)
    | some (.queued _) =>
      let polled := session.stepOuter task (.poll task)
      (polled, !((polled.stage? .outer task).map Stage.isQueued).getD false)
    | some (.pausing made _) =>
      let polled := session.stepOuter task (.poll task)
      (polled, waitOf (polled.stage? .outer task) ≠ some (2, made))
    | some (.finished _) => (session, false)
    | some .dropped => (session, false)
    | _ => (session.stepOuter task (.poll task), true)

/-- The moments at which a waiting request wants to be woken. -/
def deadlines : Option Stage → List Nat
  | some (.exchanging exchange) => exchange.deadline.toList
  | some (.pausing _ wake) => [wake]
  | _ => []

/-- The timers of a task. -/
def timers (session : Session) (task : Nat) : List Nat :=
  match session.tasks[task]? with
  | none => []
  | some state =>
    let innerStage := state.inner.bind (session.stage? .inner)
    let sleep := (state.play.bind (·.wake)).toList
    (sleep ++ deadlines innerStage ++ deadlines (session.stage? .outer task)).map Clock.tick

/-- Sets the timers that a task has newly begun, and forgets those it no longer needs. -/
def setTimers (session : Session) (task : Nat) : Session :=
  let current := session.timers task
  let kept := session.alarms.filter fun alarm => alarm.1 ≠ task || current.contains alarm.2
  let new := current.filter fun moment => !kept.contains (task, moment)
  { session with alarms := kept ++ new.map fun moment => (task, moment) }

/-- A task goes on until it has to wait. -/
def turn : Nat → Session → Nat → Session
  | 0, session, _ => session
  | fuel + 1, session, task =>
    let (moved, goesOn) := session.move task
    if goesOn then turn fuel moved task else moved.setTimers task

/-- A task from the queue has its turn, after which it may have a place in the queue again. -/
def queueTurn (session : Session) (task : Nat) : Session :=
  let done := turn patience { session with turning := some (task, false) } task
  let rested := { done with turning := none }
  if (done.turning.map (·.2)).getD false then rested.wake task else rested

/-- All tasks that can run have their turns. -/
def drain : Nat → Session → Session
  | 0, session => session
  | fuel + 1, session =>
    match session.ready with
    | [] => session
    | task :: rest => drain fuel ({ session with ready := rest }.queueTurn task)

/-! ## Waiting -/

/-- The next moment up to the horizon at which a timer fires, among those of the tasks and one
more. -/
def nextMoment (session : Session) (alarm : Option Nat) : Option Nat :=
  ((alarm.toList ++ session.alarms.map (·.2)).filter (· ≤ horizon)).min?

/-- The clock jumps. -/
def jump (session : Session) (moment : Nat) : Session :=
  let span := moment - session.now
  let moved := (session.stepSide .outer (.advance span)).stepSide .inner (.advance span)
  let fired := moved.alarms.filter (·.2 ≤ moment)
  { moved with alarms := moved.alarms.filter (moment < ·.2) }.wakeAll (fired.map Prod.fst)

/-- The director's own task has its turn, if it can run. -/
def direct (session : Session) : Session :=
  match session.directed with
  | some (task, true) => turn patience { session with directed := some (task, false) } task
  | _ => session

/-- Whether any task can run. -/
def canRun (session : Session) : Bool :=
  !session.ready.isEmpty || (session.directed.map (·.2)).getD false

/-- Lets the tasks run and the clock go on until a condition holds, or nothing can happen and the
rehearsal is stuck. -/
def waitUntil (done : Session → Bool) (alarm : Option Nat) : Nat → Session → Session
  | 0, session => session
  | fuel + 1, session =>
    let first := session.direct
    if done first then first
    else if first.canRun then waitUntil done alarm fuel (drain patience first)
    else
      match first.nextMoment alarm with
      | some moment => waitUntil done alarm fuel (first.jump moment)
      | none => { first with stuck := true }

/-- Lets all tasks that can run have their turns. -/
def settle (session : Session) : Session := drain patience session

end Session

end ResilientHttp
