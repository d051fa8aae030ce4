import ResilientHttp.Failure

/-!
# Progress of a download

While a body arrives, the transport tells how many bytes it has received so far and how many it
expects in all, if it knows. A caller who wants to watch hands in a handler. A handler may remember
what it was told, so its answer to a notice may depend on the notices it has seen before; it
answers either that the download may go on or with the failure that ends it.
-/

set_option autoImplicit false

namespace ResilientHttp

/-- One report: the bytes received so far and the announced total. -/
structure Notice where
  received : Nat
  expected : Option Nat
  deriving DecidableEq, Repr

/-- A caller's watcher: its answer to a notice, given the notices it has already seen. -/
structure Handler where
  respond : List Notice → Notice → Except Failure Unit

namespace Handler

/-- The handler that lets everything pass. -/
def silent : Handler := ⟨fun _ _ => .ok ()⟩

/-- The handler that answers with a failure once a number of bytes has been received. -/
def failingFrom (bound : Nat) (failure : Failure) : Handler :=
  ⟨fun _ notice => if bound ≤ notice.received then .error failure else .ok ()⟩

end Handler

end ResilientHttp
