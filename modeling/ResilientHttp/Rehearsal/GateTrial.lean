import ResilientHttp.Gate

/-!
# Trying out a gate

A trial drives one gate with named tasks. A task that finds no slot waits; after every step all
tasks that can go on do so, in the order in which they came, and the trial reports who was admitted
and who was sent away.
-/

set_option autoImplicit false

namespace ResilientHttp

/-- What a trial reports. -/
inductive GateEvent where
  | acquired (name : String)
  | rejected (name : String)
  deriving DecidableEq, Repr

/-- One step of a trial. -/
inductive GateMove where
  /-- A task comes and wants a slot. -/
  | acquire (name : String)
  /-- A task gives back its slot, if it has one. -/
  | release (name : String)
  /-- A task stops waiting. -/
  | abandon (name : String)
  | close
  /-- Nothing happens. -/
  | look
  deriving DecidableEq, Repr

/-- A gate and the named tasks at it, each with the number by which the gate knows it. -/
structure GateTrial where
  gate : Gate
  waiting : List (String × Nat) := []
  holding : List (String × Nat) := []
  next : Nat := 0

namespace GateTrial

/-- Notes the slot of a task. An earlier slot of the same task is given back. -/
def hold (trial : GateTrial) (name : String) (taker : Nat) : GateTrial :=
  let gate := match trial.holding.lookup name with
    | some earlier => trial.gate.leave earlier
    | none => trial.gate
  { trial with gate, holding := trial.holding.filter (·.1 != name) ++ [(name, taker)] }

/-- Lets one waiting task look whether it can go on. -/
def look (trial : GateTrial) (task : String × Nat) : GateTrial × List GateEvent :=
  let (answer, gate) := trial.gate.claim task.2
  let waiting := trial.waiting.filter (·.2 != task.2)
  match answer with
  | .admitted => ({ trial with gate, waiting }.hold task.1 task.2, [.acquired task.1])
  | .refused => ({ trial with gate, waiting }, [.rejected task.1])
  | .waiting => ({ trial with gate }, [])

/-- Lets all waiting tasks look. -/
def settle (trial : GateTrial) : GateTrial × List GateEvent :=
  trial.waiting.foldl
    (fun state task =>
      let (after, events) := state.1.look task
      (after, state.2 ++ events))
    (trial, [])

/-- What a step does before the others go on. -/
def move (trial : GateTrial) : GateMove → GateTrial × List GateEvent
  | .acquire name =>
    let taker := trial.next
    let (answer, gate) := trial.gate.enter taker
    let after := { trial with gate, next := taker + 1 }
    match answer with
    | .admitted => (after.hold name taker, [.acquired name])
    | .refused => (after, [.rejected name])
    | .waiting => ({ after with waiting := trial.waiting ++ [(name, taker)] }, [])
  | .release name =>
    match trial.holding.lookup name with
    | some taker =>
      ({ trial with
          gate := trial.gate.leave taker, holding := trial.holding.filter (·.1 != name) }, [])
    | none => (trial, [])
  | .abandon name =>
    ({ trial with
        gate := (trial.waiting.filter (·.1 == name)).foldl (fun gate task => gate.abandon task.2)
          trial.gate
        waiting := trial.waiting.filter (·.1 != name) }, [])
  | .close => ({ trial with gate := trial.gate.close }, [])
  | .look => (trial, [])

/-- A step, after which everybody goes on as far as they get. -/
def step (trial : GateTrial) (move : GateMove) : GateTrial × List GateEvent :=
  let (moved, first) := trial.move move
  let (settled, later) := moved.settle
  (settled, first ++ later)

/-- The names of those who wait, in order of the names. -/
def waitingNames (trial : GateTrial) : List String :=
  (trial.waiting.map (·.1)).mergeSort (fun left right => decide (left ≤ right))

end GateTrial

end ResilientHttp
