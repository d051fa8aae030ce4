import ResilientHttp.Engine.Signal

/-!
# Traces

A trace shows the journal as spans and events with named fields. A request is a span; an attempt,
a repetition, a rejection and the end of a request are events, whose level says how remarkable they
are. What only concerns the inside of the engine is not shown.
-/

set_option autoImplicit false

namespace ResilientHttp

/-- The value of a field. -/
inductive TraceValue where
  | number (value : Nat)
  | text (value : String)
  deriving DecidableEq, Repr

/-- How remarkable an entry is. -/
inductive TraceLevel where
  | debug
  | info
  | warn
  deriving DecidableEq, Repr

/-- The word for a level. -/
def TraceLevel.text : TraceLevel → String
  | .debug => "DEBUG"
  | .info => "INFO"
  | .warn => "WARN"

/-- A span or an event. -/
structure TraceEntry where
  /-- Whether the entry is a span, which lasts, or an event. -/
  isSpan : Bool := false
  name : String
  level : TraceLevel
  fields : List (String × TraceValue) := []
  deriving DecidableEq, Repr

namespace Trace

/-- The largest number a field can show. -/
def maxNumber : Nat := 18446744073709551615

/-- The milliseconds of a span, as far as a field can show them. -/
def millis (span : Span) : TraceValue := .number (min span.millis maxNumber)

/-- The field that tells an outcome: the status of a response or the wording of a failure. -/
def outcomeField : Outcome → String × TraceValue
  | .ok response => ("status", .number response.status)
  | .error failure => ("error", .text failure.message)

/-- The entry for the end of a request. -/
def completion (result : Outcome) (elapsed : Span) : TraceEntry :=
  match result with
  | .ok _ =>
    { name := "request completed", level := .info
      fields := [outcomeField result, ("elapsed_ms", millis elapsed)] }
  | .error _ =>
    { name := "request failed", level := .warn
      fields := [outcomeField result, ("elapsed_ms", millis elapsed)] }

/-- The entry that shows a signal, if it is shown. -/
def entry? : Signal → Option TraceEntry
  | .submitted _ method url =>
    some
      { isSpan := true, name := "http_request", level := .info
        fields := [("method", .text method.text), ("url", .text url.text)] }
  | .sending _ attempt host =>
    some
      { name := "sending request", level := .debug
        fields := [("attempt", .number attempt), ("host", .text host.text)] }
  | .rejected _ host =>
    some
      { name := "circuit breaker open, request rejected", level := .warn
        fields := [("host", .text host.text)] }
  | .retrying _ attempt _ outcome delay =>
    some
      { name := "retrying request", level := .warn
        fields :=
          [("attempt", .number attempt), outcomeField outcome, ("delay_ms", millis delay)] }
  | .finished _ _ result elapsed => some (completion result elapsed)
  | .shutDown => some { name := "shutting down client", level := .debug }
  | _ => none

/-- The trace of the given signals. -/
def ofSignals (signals : List Signal) : List TraceEntry := signals.filterMap entry?

end Trace

end ResilientHttp
