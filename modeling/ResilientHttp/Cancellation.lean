/-!
# Cancellation

A latch is raised once and stays raised. Any number of tasks may wait for it, and any number of
callers may raise it. All who hold the latch share it, so a copy of a latch is the latch.

A wait and a call are made of small steps between which others may act. Who waits first registers
with the bell, then looks at the flag, and only if the flag is down goes to sleep until the bell
rings; after waking it starts over. Who cancels first raises the flag and then rings the bell, which
wakes exactly those who are registered at that moment. The order of the steps on both sides is what
makes sure that nobody sleeps on: either the waiter sees the flag, or the bell sees the waiter.
-/

set_option autoImplicit false

namespace ResilientHttp

/-- Where a waiting task stands. -/
inductive Standing where
  /-- About to register with the bell. -/
  | arriving
  /-- Registered, about to look at the flag. -/
  | registered
  /-- Asleep until the bell rings. -/
  | asleep
  /-- The wait is over. -/
  | returned
  deriving DecidableEq, Repr

/-- A waiting task: where it stands, and whether the bell has rung since it registered. -/
structure Waiter where
  standing : Standing := .arriving
  rung : Bool := false
  deriving DecidableEq, Repr

/-- How far a caller who cancels has come. -/
inductive Raising where
  /-- About to raise the flag. -/
  | calling
  /-- The flag is raised, the bell not yet rung. -/
  | raised
  /-- The call is over. -/
  | finished
  deriving DecidableEq, Repr

/-- A latch with those who wait for it and those who raise it, each named by a number. -/
structure Latch where
  isRaised : Bool := false
  waiters : List (Nat × Waiter) := []
  callers : List (Nat × Raising) := []
  deriving DecidableEq, Repr

namespace Waiter

/-- Registers with the bell. -/
def register (waiter : Waiter) : Waiter :=
  match waiter.standing with
  | .arriving => ⟨.registered, false⟩
  | _ => waiter

/-- Looks at the flag. -/
def look (isRaised : Bool) (waiter : Waiter) : Waiter :=
  match waiter.standing with
  | .registered => if isRaised then ⟨.returned, false⟩ else { waiter with standing := .asleep }
  | _ => waiter

/-- Wakes up if the bell has rung, and starts over. -/
def wake (waiter : Waiter) : Waiter :=
  match waiter.standing with
  | .asleep => if waiter.rung then ⟨.arriving, false⟩ else waiter
  | _ => waiter

/-- Hears the bell, if it is registered. -/
def hear (waiter : Waiter) : Waiter :=
  match waiter.standing with
  | .registered => { waiter with rung := true }
  | .asleep => { waiter with rung := true }
  | _ => waiter

/-- Whether the wait is over. -/
def isReturned (waiter : Waiter) : Bool := waiter.standing == .returned

end Waiter

namespace Latch

/-- One small step of a waiter or a caller. -/
inductive Act where
  | arrive (waiter : Nat)
  | register (waiter : Nat)
  | look (waiter : Nat)
  | wake (waiter : Nat)
  /-- The waiter gives up. -/
  | depart (waiter : Nat)
  | call (caller : Nat)
  | raise (caller : Nat)
  | ring (caller : Nat)
  deriving DecidableEq, Repr

/-- Changes one waiter. -/
def onWaiter (latch : Latch) (name : Nat) (change : Waiter → Waiter) : Latch :=
  { latch with
    waiters := latch.waiters.map fun entry =>
      if entry.1 = name then (entry.1, change entry.2) else entry }

/-- Moves one caller on. -/
def onCaller (latch : Latch) (name : Nat) (next : Raising) : Latch :=
  { latch with
    callers := latch.callers.map fun entry =>
      if entry.1 = name then (entry.1, next) else entry }

/-- The latch after a step. A step that its actor cannot take changes nothing. -/
def act (latch : Latch) : Act → Latch
  | .arrive name =>
    if (latch.waiters.lookup name).isSome then latch
    else { latch with waiters := latch.waiters ++ [(name, {})] }
  | .register name => latch.onWaiter name Waiter.register
  | .look name => latch.onWaiter name (Waiter.look latch.isRaised)
  | .wake name => latch.onWaiter name Waiter.wake
  | .depart name => { latch with waiters := latch.waiters.filter (·.1 != name) }
  | .call name =>
    if (latch.callers.lookup name).isSome then latch
    else { latch with callers := latch.callers ++ [(name, .calling)] }
  | .raise name =>
    match latch.callers.lookup name with
    | some .calling => { latch.onCaller name .raised with isRaised := true }
    | _ => latch
  | .ring name =>
    match latch.callers.lookup name with
    | some .raised =>
      let after := latch.onCaller name .finished
      { after with waiters := after.waiters.map fun entry => (entry.1, entry.2.hear) }
    | _ => latch

/-- The latch after a run. -/
def run (latch : Latch) (acts : List Act) : Latch := acts.foldl act latch

/-! ## Whole waits and calls -/

/-- The steps that take a new waiter as far as it gets: into sleep, or home if the flag is up. -/
def waitActs (waiter : Nat) : List Act := [.arrive waiter, .register waiter, .look waiter]

/-- The steps that take a sleeper on after the bell. -/
def resumeActs (waiter : Nat) : List Act := [.wake waiter, .register waiter, .look waiter]

/-- The steps of a call. -/
def cancelActs (caller : Nat) : List Act := [.call caller, .raise caller, .ring caller]

/-- Who sleeps, in the order of arrival. -/
def sleepers (latch : Latch) : List Nat :=
  (latch.waiters.filter (·.2.standing == .asleep)).map (·.1)

/-- Whose wait is over, in the order of arrival. -/
def returned (latch : Latch) : List Nat :=
  (latch.waiters.filter (·.2.isReturned)).map (·.1)

/-- Lets every sleeper that has heard the bell go on. -/
def settle (latch : Latch) : Latch :=
  latch.run (latch.sleepers.flatMap resumeActs)

/-- A raised flag stays up. -/
theorem isRaised_act {latch : Latch} (up : latch.isRaised = true) (step : Act) :
    (latch.act step).isRaised = true := by
  cases step <;> simp only [act, onWaiter, onCaller] <;> (try split) <;> simp_all

end Latch

end ResilientHttp
