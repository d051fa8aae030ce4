import ResilientHttp.Tokens

/-!
# Trying out cancellation tokens

A trial makes named tokens, copies them, and lets named tasks wait for them. A copy of a token is
another name for the same latch. After every step each task that was woken goes on, and the trial
reports whose wait ended.
-/

set_option autoImplicit false

namespace ResilientHttp

/-- One step of a trial. -/
inductive TokenMove where
  /-- Makes a new token; a token of the same name is forgotten. -/
  | new (name : String)
  /-- Gives a token a further name. -/
  | copy (name token : String)
  | drop (name : String)
  | cancel (name : String)
  | isCancelled (name : String)
  /-- A task begins to wait for a token. -/
  | wait (task token : String)
  deriving DecidableEq, Repr

/-- The tokens of a trial, and the names of the tasks. -/
structure TokenTrial where
  tokens : Tokens := {}
  /-- The tasks in order of arrival; a task's number is its place in this list. -/
  tasks : List String := []
  /-- The number of calls so far, by which the next caller is named. -/
  calls : Nat := 0

namespace TokenTrial

/-- Takes some steps at the latch behind a name. -/
def go (trial : TokenTrial) (name : String) (steps : List Latch.Act) : TokenTrial :=
  { trial with tokens := trial.tokens.run (steps.map (.go name)) }

/-- What a step does; the answer is there only for a question. -/
def move (trial : TokenTrial) : TokenMove → TokenTrial × Option Bool
  | .new name => ({ trial with tokens := trial.tokens.act (.make name) }, none)
  | .copy name token => ({ trial with tokens := trial.tokens.act (.copy name token) }, none)
  | .drop name => ({ trial with tokens := trial.tokens.act (.drop name) }, none)
  | .cancel name =>
    ({ trial with calls := trial.calls + 1 }.go name (Latch.cancelActs trial.calls), none)
  | .isCancelled name => (trial, trial.tokens.isCancelled name)
  | .wait task token =>
    ({ trial with tasks := trial.tasks ++ [task] }.go token (Latch.waitActs trial.tasks.length),
      none)

/-- The numbers of the tasks whose wait has ended. -/
def ended (trial : TokenTrial) : List Nat := trial.tokens.latches.flatMap Latch.returned

/-- A step, after which every task that was woken goes on. The report has the answer and the names
of the tasks whose wait ended, in order of the names. -/
def step (trial : TokenTrial) (move : TokenMove) : TokenTrial × Option Bool × List String :=
  let (moved, answer) := trial.move move
  let settled :=
    { moved with
      tokens := { moved.tokens with latches := moved.tokens.latches.map Latch.settle } }
  let before := trial.ended
  let woken := (settled.ended.filter (!before.contains ·)).filterMap (settled.tasks[·]?)
  (settled, answer, woken.mergeSort (fun left right => decide (left ≤ right)))

end TokenTrial

end ResilientHttp
