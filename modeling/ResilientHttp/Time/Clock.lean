import ResilientHttp.Time.Span

/-!
# The clock and its timers

A moment is a number of nanoseconds since the start of the clock. A wait ends its span after it
began (`Clock.deadline`), however long that is. The timer shows the end at the first whole
millisecond that is not before it (`Clock.tick`, with `le_tick` and `tick_le`).
-/

set_option autoImplicit false

namespace ResilientHttp

namespace Clock

/-- The granularity of timers: one millisecond. -/
def tickNanos : Nat := 1000000

/-- The first whole millisecond that is not before the given moment. -/
def tick (moment : Nat) : Nat :=
  (moment + 999999) / tickNanos * tickNanos

/-- The moment at which a wait that begins now ends. -/
def deadline (now : Nat) (wait : Span) : Nat := now + wait.nanos

/-- Whether a timer with the given deadline has fired. -/
def due (deadline now : Nat) : Bool :=
  decide (tick deadline ≤ now)

/-- The span from an earlier moment to a later one, zero if they come in the other order. -/
def elapsed (earlier later : Nat) : Span :=
  Span.ofNanos (later - earlier)

/-- Whole milliseconds since the start of the clock. -/
def millis (moment : Nat) : Nat := moment / tickNanos

/-! ## Laws -/

/-- Timers fire at whole milliseconds. -/
theorem tickNanos_dvd_tick (moment : Nat) : tickNanos ∣ tick moment :=
  ⟨_, Nat.mul_comm _ _⟩

/-- A timer never fires before its deadline. -/
theorem le_tick (moment : Nat) : moment ≤ tick moment := by
  unfold tick tickNanos; omega

/-- A timer fires no later than any whole millisecond that is not before its deadline. -/
theorem tick_le {moment later : Nat} (whole : tickNanos ∣ later) (reached : moment ≤ later) :
    tick moment ≤ later := by
  unfold tickNanos at whole
  unfold tick tickNanos
  omega

end Clock

end ResilientHttp
