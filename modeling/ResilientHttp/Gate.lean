/-!
# The gate

At most so many attempts run at once. The gate holds a number of slots; an attempt takes one when it
begins and gives it back when it ends. An attempt that finds no free slot waits, and the waiting
attempts are admitted in the order in which they came.

A slot that is given back while somebody waits belongs at once to the first who waits (`granted`),
although that one may learn of it only later (`claim`). Until then it can still walk away, and then
the slot passes on. A closed gate admits nobody: whoever waits is sent away, whoever comes is
refused, and a slot that was granted but not yet claimed is given back when its owner looks. Slots
that are held stay valid until they are given back.

Every slot is therefore in exactly one place: free, granted, or held. The number of slots in flight
is the number of those that are not free.
-/

set_option autoImplicit false

namespace ResilientHttp

/-- The slots of a gate and those who want one. A taker is named by a number. -/
structure Gate where
  /-- The bound the gate was made with; nothing means unbounded. -/
  capacity : Option Nat
  /-- The number of free slots. -/
  free : Nat
  /-- Who waits, in the order of arrival. -/
  queue : List Nat := []
  /-- Who was given a slot while waiting and has not looked yet. -/
  granted : List Nat := []
  /-- Who holds a slot. -/
  held : List Nat := []
  closed : Bool := false
  deriving DecidableEq, Repr

/-- The answer to somebody who wants a slot. -/
inductive Admission where
  | admitted
  | waiting
  | refused
  deriving DecidableEq, Repr

namespace Gate

/-- The number of slots of an unbounded gate, and the most that any gate can have. -/
def maxSlots : Nat := 2305843009213693951

/-- The number of slots of a gate with the given bound. -/
def slotsOf (capacity : Option Nat) : Nat := capacity.getD maxSlots

/-- The number of slots. -/
def slots (gate : Gate) : Nat := slotsOf gate.capacity

/-- A new gate. -/
def new (capacity : Option Nat) : Gate := { capacity, free := slotsOf capacity }

/-- A new gate, or nothing if there are more slots than a gate can have. -/
def new? (capacity : Option Nat) : Option Gate :=
  if slotsOf capacity ≤ maxSlots then some (new capacity) else none

/-- The number of slots that are not free. -/
def inFlight (gate : Gate) : Nat := gate.slots - gate.free

/-- One slot comes back: to the first who waits, or else to the free ones. -/
def giveBack (gate : Gate) : Gate :=
  match gate.queue with
  | first :: rest => { gate with queue := rest, granted := gate.granted ++ [first] }
  | [] => { gate with free := gate.free + 1 }

/-- Somebody comes and wants a slot. -/
def enter (gate : Gate) (taker : Nat) : Admission × Gate :=
  if gate.closed then (.refused, gate)
  else if 0 < gate.free then
    (.admitted, { gate with free := gate.free - 1, held := gate.held ++ [taker] })
  else (.waiting, { gate with queue := gate.queue ++ [taker] })

/-- Somebody who waits looks whether a slot has come. A slot that came before the gate was closed
is given back. -/
def claim (gate : Gate) (taker : Nat) : Admission × Gate :=
  if gate.granted.contains taker then
    let without := { gate with granted := gate.granted.erase taker }
    if gate.closed then (.refused, without.giveBack)
    else (.admitted, { without with held := gate.held ++ [taker] })
  else if gate.closed then (.refused, gate)
  else (.waiting, gate)

/-- Somebody who waits walks away. A slot that had been granted passes on. -/
def abandon (gate : Gate) (taker : Nat) : Gate :=
  if gate.queue.contains taker then { gate with queue := gate.queue.erase taker }
  else if gate.granted.contains taker then
    { gate with granted := gate.granted.erase taker }.giveBack
  else gate

/-- Somebody gives back the slot that they hold. -/
def leave (gate : Gate) (taker : Nat) : Gate :=
  if gate.held.contains taker then { gate with held := gate.held.erase taker }.giveBack else gate

/-- Closes the gate: whoever waits is sent away. -/
def close (gate : Gate) : Gate := { gate with queue := [], closed := true }

/-! ## Runs

What can happen at a gate, as data, so that a run is a list.
-/

/-- One thing that happens at a gate. -/
inductive Act where
  | enter (taker : Nat)
  | claim (taker : Nat)
  | abandon (taker : Nat)
  | leave (taker : Nat)
  | close
  deriving DecidableEq, Repr

/-- Whether somebody is at the gate: waiting, granted a slot, or holding one. -/
def isPresent (gate : Gate) (taker : Nat) : Bool :=
  gate.queue.contains taker || gate.granted.contains taker || gate.held.contains taker

/-- The gate after an act. Who is at the gate already does not enter again. -/
def act (gate : Gate) : Act → Gate
  | .enter taker => if gate.isPresent taker then gate else (gate.enter taker).2
  | .claim taker => (gate.claim taker).2
  | .abandon taker => gate.abandon taker
  | .leave taker => gate.leave taker
  | .close => gate.close

/-- The gate after a run. -/
def run (gate : Gate) (acts : List Act) : Gate := acts.foldl act gate

end Gate

end ResilientHttp
