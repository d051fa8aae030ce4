import ResilientHttp.Rehearsal.Session
import ResilientHttp.Telemetry.Metrics
import ResilientHttp.Telemetry.Trace
import ResilientHttp.Url.Read

/-!
# Directing a rehearsal

A rehearsal is directed by cues: hand in a request and wait for it, hand in requests to run beside
each other, wait for them, abort them, let time pass, cancel a token, shut the client down, or ask
what the client looks like. Each cue is answered by a report.
-/

set_option autoImplicit false

namespace ResilientHttp

/-- One instruction to a rehearsal. -/
inductive Cue where
  /-- Hands in a request and waits for its result. -/
  | request (errand : Errand)
  /-- Hands in a request as a task of the given name; or several, with their numbers appended to the
  name. -/
  | spawn (name : String) (times : Option Nat) (errand : Errand)
  | join (name : String)
  /-- Waits for all tasks that were not joined. -/
  | joinAll
  | abort (name : String)
  | running
  | sleep (span : Span)
  | cancel (token : Token)
  | shutDown
  | circuit (url : String)
  | gate
  | userAgent
  | metrics
  | describe

/-- What became of a request. -/
structure FlightReport where
  result : Outcome
  finished : Nat
  calls : List Call
  notes : List (Except Failure Unit)
  forwarded : List Notice
  asked : List Url

/-- The answer to a cue. -/
inductive Report where
  | nothing
  | flight (report : FlightReport)
  | aborted
  /-- The results of several tasks; an aborted one has none. -/
  | flights (reports : List (String × Option FlightReport))
  | names (names : List String)
  | circuit (circuit : Circuit)
  | gate (capacity : Option Nat) (closed : Bool) (peak : Nat)
  | text (text : String)
  | metrics (metrics : Metrics)
  | failure (failure : Failure)

namespace Session

/-- Adds a task, which can run. -/
def add (session : Session) (name : Option String) (errand : Errand) : Session :=
  { session with tasks := session.tasks.push { name, errand } }.wake session.tasks.size

/-- Adds a task that the director runs. -/
def addDirected (session : Session) (errand : Errand) : Session :=
  { session with directed := some (session.tasks.size, false) }.add none errand

/-- The newest task of a name. -/
def named? (session : Session) (name : String) : Option Nat :=
  (List.range session.tasks.size).reverse.find? fun task =>
    ((session.tasks[task]?).bind (·.name)) == some name

/-- Whether the caller walked away from a task. -/
def isAborted (session : Session) (task : Nat) : Bool :=
  match session.stage? .outer task with
  | some .dropped => true
  | _ => false

/-- Whether a task is over. -/
def isOver (session : Session) (task : Nat) : Bool :=
  session.isAborted task || ((session.tasks[task]?).bind (·.finished)).isSome

/-- What became of a task's request, if it has a result. -/
def report? (session : Session) (task : Nat) : Option FlightReport := do
  let state ← session.tasks[task]?
  let finished ← state.finished
  let flight := session.outer.flight? task
  let result ← match state.errand.request with
    | .error fault => some (.error (.invalidUrl fault))
    | .ok _ => flight.bind (·.stage.result?)
  some
    { result, finished, calls := state.calls.reverse, notes := state.notes.reverse
      forwarded := (flight.map (·.seen)).getD [], asked := state.asked.reverse }

/-- The tasks with a name that were not joined, in the order in which they came. -/
def unjoined (session : Session) : List (String × Nat) :=
  (List.range session.tasks.size).filterMap fun task => do
    let state ← session.tasks[task]?
    let name ← state.name
    if state.joined || session.named? name ≠ some task then none else some (name, task)

/-- Waits until all of the given tasks are over. -/
def await (session : Session) (tasks : List Nat) : Session :=
  waitUntil (fun session => tasks.all session.isOver) none patience session

/-- Whether a task was joined. A task is joined once. -/
def isJoined (session : Session) (task : Nat) : Bool :=
  ((session.tasks[task]?).map (·.joined)).getD false

/-- Takes note that a task was joined. -/
def markJoined (session : Session) (task : Nat) : Session :=
  session.onTask task fun state => { state with joined := true }

/-- The report on one task. -/
def reportOn (session : Session) (task : Nat) : Report :=
  match session.report? task with
  | some report => .flight report
  | none => .aborted

/-- Follows a cue. -/
def follow (session : Session) : Cue → Session × Report
  | .request errand =>
    let task := session.tasks.size
    let done := (session.addDirected errand).await [task]
    (done, done.reportOn task)
  | .spawn name times errand =>
    let names := match times with
      | some count => (List.range count).map fun place => name ++ toString place
      | none => [name]
    ((names.foldl (fun session name => session.add (some name) errand) session).settle, .nothing)
  | .join name =>
    match (session.named? name).filter (!session.isJoined ·) with
    | some task =>
      let done := (session.await [task]).markJoined task
      (done, done.reportOn task)
    | none => (session, .nothing)
  | .joinAll =>
    let left := session.unjoined
    let done := session.await (left.map (·.2))
    (left.foldl (fun session task => session.markJoined task.2) done,
      .flights (left.map fun task => (task.1, done.report? task.2)))
  | .abort name =>
    match session.named? name with
    | some task =>
      (((session.onTask task fun state => { state with aborting := true }).wake task).settle,
        .nothing)
    | none => (session, .nothing)
  | .running =>
    let names := (session.unjoined.filter fun task => !session.isOver task.2).map (·.1)
    (session, .names (names.mergeSort fun left right => decide (left ≤ right)))
  | .sleep span =>
    let wake := Clock.tick (Clock.deadline session.now span)
    (waitUntil (fun session => wake ≤ session.now) (some wake) patience session, .nothing)
  | .cancel token => ((session.cancel token).settle, .nothing)
  | .shutDown => ((session.stepSide .outer .shutDown).settle, .nothing)
  | .circuit url =>
    match Url.read url with
    | .error fault => (session, .failure (.invalidUrl fault))
    | .ok url => (session.stepSide .outer (.ask url), .circuit (session.outer.circuit url).1)
  | .gate =>
    (session,
      .gate session.outer.gate.capacity session.outer.gate.closed session.peak)
  | .userAgent => (session, .text session.outer.config.userAgent)
  | .metrics => (session, .metrics (Metrics.ofSignals session.signals.reverse))
  | .describe => (session, .text session.outer.describe)

/-- The trace of the rehearsal so far. -/
def trace (session : Session) : List TraceEntry := Trace.ofSignals session.signals.reverse

end Session

end ResilientHttp
