import ResilientHttp.Telemetry.Metrics
import Mathlib.Algebra.BigOperators.Group.List.Basic
import Mathlib.Algebra.Ring.Int.Defs
import Mathlib.Data.List.Induction

/-!
# Metrics as sums

A metric is read off the journal by a fold that keeps a table. For a single metric the table does
not matter: its value is the sum of what the signals add to it (`Metrics.value_ofSignals`).
-/

set_option autoImplicit false

namespace ResilientHttp

/-- What a signal adds to a metric. -/
def Metric.amount (metric : Metric) (signal : Signal) : Int :=
  match Metric.change? signal with
  | some (changed, amount) => if metric = changed then amount else 0
  | none => 0

namespace Metrics

/-- The first entry of a table decides about its own metric only. -/
theorem value_cons (first metric : Metric) (total : Int) (rest : Metrics) :
    value ((first, total) :: rest) metric =
      if metric = first then total else value rest metric := by
  by_cases same : metric = first
  · simp [value, same]
  · have differ : (metric == first) = false := beq_eq_false_iff_ne.2 same
    simp [value, List.lookup_cons, differ, same]

/-- Adding to a metric changes the value of that metric and of no other. -/
theorem value_add (metrics : Metrics) (changed metric : Metric) (amount : Int) :
    (metrics.add changed amount).value metric =
      metrics.value metric + if metric = changed then amount else 0 := by
  induction metrics with
  | nil =>
      have empty : value [] metric = 0 := rfl
      rw [add, value_cons, empty, zero_add]
  | cons entry rest ih =>
      obtain ⟨first, total⟩ := entry
      rw [add]
      by_cases found : first = changed
      · rw [if_pos found, value_cons, value_cons, ← found]
        split <;> simp
      · rw [if_neg found, value_cons, value_cons, ih]
        by_cases same : metric = first
        · simp [same, found]
        · simp only [if_neg same]

/-- The value of a metric after a journal is the sum of what the signals add to it. -/
theorem value_ofSignals (signals : List Signal) (metric : Metric) :
    (ofSignals signals).value metric = (signals.map metric.amount).sum := by
  induction signals using List.reverseRecOn with
  | nil => rfl
  | append_singleton front last ih =>
      rw [List.map_append, List.sum_append, ← ih]
      simp only [ofSignals, List.foldl_append, List.foldl_cons, List.foldl_nil, List.map_cons,
        List.map_nil, List.sum_singleton]
      cases change : Metric.change? last with
      | some entry =>
          rw [show metric.amount last = if metric = entry.1 then entry.2 else 0 by
            simp [Metric.amount, change]]
          exact value_add _ entry.1 metric entry.2
      | none =>
          rw [show metric.amount last = 0 by simp [Metric.amount, change], add_zero]

end Metrics

end ResilientHttp
