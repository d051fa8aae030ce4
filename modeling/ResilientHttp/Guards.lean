import ResilientHttp.SizeGuard

/-!
# Guards that are shared

A guard has several holders. The engine keeps it until the attempt is over, copies of it can be
made, and the transport is given a handler that is made of a copy. What a holder has is a share in
the guard: the cap and the caller's handler, and the place of the guard's memory. A copy of a share
has the same place, so all shares of a guard write into one memory; every new guard has a memory of
its own.

A share acts like the guard that it stands for, with what the memory holds at that moment
(`Guards.guard`).
-/

set_option autoImplicit false

namespace ResilientHttp

/-- What all shares of a guard have in common: the first excess, and the notices that the caller's
handler was given. -/
structure GuardMemory where
  exceeded : Option Nat := none
  forwarded : List Notice := []
  deriving DecidableEq, Repr

/-- A share in a guard. -/
structure GuardShare where
  cap : Option Nat
  handler : Option Handler
  /-- The place of the memory. -/
  place : Nat

/-- Guards with all their shares. A share is named by its place among the shares. -/
structure Guards where
  memories : List GuardMemory := []
  shares : List GuardShare := []

namespace Guards

/-- The memory at a place. -/
def memory (guards : Guards) (place : Nat) : GuardMemory := guards.memories[place]?.getD {}

/-- The guard that a share stands for. -/
def guard (guards : Guards) (share : GuardShare) : SizeGuard :=
  { cap := share.cap, handler := share.handler
    exceeded := (guards.memory share.place).exceeded
    forwarded := (guards.memory share.place).forwarded }

/-- A new guard with its first share. -/
def make (guards : Guards) (cap : Option Nat) (handler : Option Handler) : Guards :=
  { memories := guards.memories ++ [{}]
    shares := guards.shares ++ [{ cap, handler, place := guards.memories.length }] }

/-- One more share like the given one. -/
def copy (guards : Guards) (share : GuardShare) : Guards :=
  { guards with shares := guards.shares ++ [share] }

/-- The share behind the handler that a transport is given, if it is given one. -/
def handler? (guards : Guards) (share : GuardShare) : Option GuardShare :=
  if (guards.guard share).isWatching then some share else none

/-- Answers a notice that is given to a share. -/
def tell (guards : Guards) (share : GuardShare) (notice : Notice) : Except Failure Unit × Guards :=
  let (answer, after) := (guards.guard share).check notice
  (answer,
    { guards with
      memories := guards.memories.set share.place
        { exceeded := after.exceeded, forwarded := after.forwarded } })

/-- The outcome of the attempt, as a share sees it. -/
def finish (guards : Guards) (share : GuardShare) (outcome : Outcome) : Outcome :=
  (guards.guard share).finish outcome

/-- What can be done with guards. -/
inductive Act where
  | make (cap : Option Nat) (handler : Option Handler)
  | copy (share : Nat)
  /-- A handler for a transport is made. -/
  | lend (share : Nat)
  | tell (share : Nat) (notice : Notice)

/-- The guards after an act. An act on a share that is not there changes nothing. -/
def act (guards : Guards) : Act → Guards
  | .make cap handler => guards.make cap handler
  | .copy name => guards.shares[name]?.elim guards guards.copy
  | .lend name => (guards.shares[name]?.bind guards.handler?).elim guards guards.copy
  | .tell name notice =>
    guards.shares[name]?.elim guards fun share => (guards.tell share notice).2

/-- The guards after a run. -/
def run (guards : Guards) (acts : List Act) : Guards := acts.foldl act guards

end Guards

end ResilientHttp
