import ResilientHttp.Engine.Signal

/-!
# Metrics

Three counters and a gauge summarise the journal: how many requests ended in which way, how many
attempts were repeated, how many requests were turned away by an open host, and how many attempts
hold a slot right now. A metric exists from the moment at which it is first touched.
-/

set_option autoImplicit false

namespace ResilientHttp

/-- A metric: its name and the values of its labels. -/
structure Metric where
  name : String
  labels : List (String × String) := []
  deriving DecidableEq, Repr

namespace Metric

/-- The metric with its labels between braces. -/
def text (metric : Metric) : String :=
  if metric.labels.isEmpty then metric.name
  else
    metric.name ++ "\x7b" ++
      String.intercalate "," (metric.labels.map fun label => label.1 ++ "=" ++ label.2) ++ "\x7d"

/-- The short word for the way a request ended. -/
def outcomeLabel : Outcome → String
  | .ok response => toString response.status
  | .error .circuitOpen => "circuit_open"
  | .error (.tooLarge _) => "too_large"
  | .error (.badStatus status) => "rejected_" ++ toString status
  | .error .cancelled => "cancelled"
  | .error _ => "error"

/-- Finished requests, by method and by the way they ended. -/
def requests (method : Method) (result : Outcome) : Metric :=
  ⟨"haul_requests_total", [("method", method.text), ("outcome", outcomeLabel result)]⟩

/-- Repeated attempts, by method. -/
def retries (method : Method) : Metric := ⟨"haul_retries_total", [("method", method.text)]⟩

/-- Requests turned away by an open host. -/
def rejections : Metric := ⟨"haul_circuit_breaker_rejections_total", []⟩

/-- Attempts that hold a slot. -/
def inFlight : Metric := ⟨"haul_requests_in_flight", []⟩

/-- What a signal adds to which metric. -/
def change? : Signal → Option (Metric × Int)
  | .rejected _ _ => some (rejections, 1)
  | .called _ _ _ _ _ => some (inFlight, 1)
  | .ended _ _ _ => some (inFlight, -1)
  | .retrying _ _ method _ _ => some (retries method, 1)
  | .finished _ method result _ => some (requests method result, 1)
  | _ => none

end Metric

/-- The metrics that were touched so far, each once. -/
abbrev Metrics := List (Metric × Int)

namespace Metrics

/-- Adds to a metric. -/
def add (metrics : Metrics) (metric : Metric) (amount : Int) : Metrics :=
  match metrics with
  | [] => [(metric, amount)]
  | (first, value) :: rest =>
    if first = metric then (first, value + amount) :: rest
    else (first, value) :: add rest metric amount

/-- The metrics after the given signals. -/
def ofSignals (signals : List Signal) : Metrics :=
  signals.foldl
    (fun metrics signal =>
      match Metric.change? signal with
      | some (metric, amount) => metrics.add metric amount
      | none => metrics)
    []

/-- The value of a metric, zero if it was never touched. -/
def value (metrics : Metrics) (metric : Metric) : Int := (metrics.lookup metric).getD 0

end Metrics

end ResilientHttp
