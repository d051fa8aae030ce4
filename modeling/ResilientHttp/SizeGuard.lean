import ResilientHttp.Progress
import ResilientHttp.Response

/-!
# The size guard

An attempt may have a cap on the bytes of its response. The guard stands between the transport and
the caller's handler: a notice that exceeds the cap is answered with a failure and not passed on,
every other notice is passed on and answered as the caller's handler answers.

The first excess is remembered (`exceeded`), and every later excess is answered with the same
failure. The memory is shared by everything that holds the guard, so the attempt fails with it even
if the transport ignored the answer (`SizeGuard.finish`).
-/

set_option autoImplicit false

namespace ResilientHttp

/-- A cap, the first excess seen, the caller's handler and the notices passed on to it. -/
structure SizeGuard where
  cap : Option Nat
  handler : Option Handler
  exceeded : Option Nat := none
  forwarded : List Notice := []

namespace SizeGuard

/-- The quantity by which a notice exceeds a cap: what was received, or else what was announced. -/
def excess (cap : Nat) (notice : Notice) : Option Nat :=
  if cap < notice.received then some notice.received
  else notice.expected.filter (cap < ·)

/-- The quantity by which a notice exceeds the guard's cap, if it has one. -/
def excess? (guard : SizeGuard) (notice : Notice) : Option Nat :=
  guard.cap.bind fun cap => excess cap notice

/-- Passes a notice on to the caller's handler and gives its answer. -/
def forward (guard : SizeGuard) (notice : Notice) : Except Failure Unit × SizeGuard :=
  match guard.handler with
  | some handler =>
    (handler.respond guard.forwarded notice,
      { guard with forwarded := guard.forwarded ++ [notice] })
  | none => (.ok (), guard)

/-- Answers a notice. -/
def check (guard : SizeGuard) (notice : Notice) : Except Failure Unit × SizeGuard :=
  match guard.excess? notice with
  | some bytes =>
    let first := guard.exceeded.getD bytes
    (.error (.tooLarge first), { guard with exceeded := some first })
  | none => guard.forward notice

/-- Whether the transport is given a handler at all. -/
def isWatching (guard : SizeGuard) : Bool :=
  guard.cap.isSome || guard.handler.isSome

/-- The outcome of the attempt, given what the transport made of it. -/
def finish (guard : SizeGuard) (outcome : Outcome) : Outcome :=
  match guard.exceeded with
  | some bytes => .error (.tooLarge bytes)
  | none =>
    match outcome with
    | .error failure => .error failure
    | .ok response =>
      match guard.cap with
      | some cap =>
        if cap < response.bodyLength then .error (.tooLarge response.bodyLength) else .ok response
      | none => .ok response

/-- The guard as diagnostics show it. -/
def describe (guard : SizeGuard) : String :=
  Text.describeRecord "SizeLimit"
    [("max", Text.describeOption (guard.cap.map toString)),
      ("exceeded", Text.describeOption (guard.exceeded.map toString)),
      ("forward", Text.describeBool guard.handler.isSome)]

end SizeGuard

end ResilientHttp
