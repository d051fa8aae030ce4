import ResilientHttp.Config
import ResilientHttp.HostKey

/-!
# The breaker

A host that keeps failing is left alone for a while. The breaker remembers when each host failed;
a host is open while at least `maxErrors` of its failures are younger than the strategy's age, and
closed otherwise. Nothing resets it but time: a failure that has reached the age does not count any
more, so an open host closes by itself.

The memory is kept small as a side effect of its use. Asking about a host drops the aged failures
of that host, and recording a failure drops those of every host; a host of which nothing is left is
forgotten. Failures are recorded in the order of time, so the aged ones are the front of a list,
and dropping them is dropping a front part (`Breaker.prune`).

Without a strategy nothing is recorded and every host is closed.
-/

set_option autoImplicit false

namespace ResilientHttp

/-- Whether requests to a host go through. -/
inductive Circuit where
  | closed
  | opened
  deriving DecidableEq, Repr

/-- The word for the state of a host. -/
def Circuit.text : Circuit → String
  | .closed => "closed"
  | .opened => "open"

/-- The moments at which hosts failed, oldest first. -/
structure Breaker where
  strategy : Option BreakerStrategy
  failures : List (HostKey × List Nat) := []
  deriving DecidableEq

namespace Breaker

/-- A breaker that remembers nothing yet. -/
def new (strategy : Option BreakerStrategy) : Breaker := { strategy }

/-- Whether a failure has reached the age of the strategy. -/
def isAged (strategy : BreakerStrategy) (now moment : Nat) : Bool :=
  strategy.age.nanos ≤ now - moment

/-- The moments without the aged ones at their front. -/
def prune (strategy : BreakerStrategy) (now : Nat) (moments : List Nat) : List Nat :=
  moments.dropWhile (isAged strategy now)

/-- The moments remembered for a host. -/
def remembered (breaker : Breaker) (host : HostKey) : List Nat :=
  (breaker.failures.lookup host).getD []

/-- The memory in which a host has the given moments; with none the host is forgotten. -/
def store (failures : List (HostKey × List Nat)) (host : HostKey) (moments : List Nat) :
    List (HostKey × List Nat) :=
  let others := failures.filter (·.1 != host)
  if moments.isEmpty then others else others ++ [(host, moments)]

/-- The memory without the aged failures of any host. -/
def sweep (strategy : BreakerStrategy) (now : Nat) (failures : List (HostKey × List Nat)) :
    List (HostKey × List Nat) :=
  (failures.map fun entry => (entry.1, prune strategy now entry.2)).filter (!·.2.isEmpty)

/-- Remembers that a host failed now. -/
def recordFailure (breaker : Breaker) (host : HostKey) (now : Nat) : Breaker :=
  match breaker.strategy with
  | none => breaker
  | some strategy =>
    let swept := sweep strategy now breaker.failures
    { breaker with failures := store swept host ((swept.lookup host).getD [] ++ [now]) }

/-- The number of failures of a host that still count, and the breaker after the question. -/
def failureCount (breaker : Breaker) (host : HostKey) (now : Nat) : Nat × Breaker :=
  match breaker.strategy with
  | none => (0, breaker)
  | some strategy =>
    let young := prune strategy now (breaker.remembered host)
    (young.length, { breaker with failures := store breaker.failures host young })

/-- The state of a host, and the breaker after the question. -/
def state (breaker : Breaker) (host : HostKey) (now : Nat) : Circuit × Breaker :=
  match breaker.strategy with
  | none => (.closed, breaker)
  | some strategy =>
    let (count, after) := breaker.failureCount host now
    (if strategy.maxErrors ≤ count then .opened else .closed, after)

/-- Whether requests to a host are turned away, and the breaker after the question. -/
def isOpen (breaker : Breaker) (host : HostKey) (now : Nat) : Bool × Breaker :=
  let (circuit, after) := breaker.state host now
  (circuit == .opened, after)

/-! ## Small laws -/

/-- A host is open exactly when its state says so. -/
theorem isOpen_fst (breaker : Breaker) (host : HostKey) (now : Nat) :
    (breaker.isOpen host now).1 = ((breaker.state host now).1 == .opened) := rfl

/-- No operation changes the strategy. -/
theorem strategy_recordFailure (breaker : Breaker) (host : HostKey) (now : Nat) :
    (breaker.recordFailure host now).strategy = breaker.strategy := by
  unfold recordFailure; split <;> rfl

theorem strategy_failureCount (breaker : Breaker) (host : HostKey) (now : Nat) :
    (breaker.failureCount host now).2.strategy = breaker.strategy := by
  unfold failureCount; split <;> rfl

theorem strategy_state (breaker : Breaker) (host : HostKey) (now : Nat) :
    (breaker.state host now).2.strategy = breaker.strategy := by
  unfold state
  split
  · rfl
  · exact strategy_failureCount breaker host now

end Breaker

end ResilientHttp
