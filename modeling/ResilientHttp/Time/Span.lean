/-!
# Spans of time

A span counts nanoseconds and is at most `18446744073709551615` seconds and `999999999`
nanoseconds (`Span.maxNanos`). Arithmetic that would exceed the longest span stops there: a span
multiplied by a number is the exact product or the longest span, whichever is shorter
(`Span.nanos_scale`).

A span is written in the largest unit of `s`, `ms`, `µs` and `ns` of which it holds at least one,
with a decimal fraction whose trailing zeros are dropped: `1.5ms`, `999.999µs`, `3600s`.
-/

set_option autoImplicit false

namespace ResilientHttp

/-- A length of time in nanoseconds, bounded by the longest span. -/
structure Span where
  nanos : Nat
  nanos_le : nanos ≤ 18446744073709551615999999999 := by decide

namespace Span

/-- The number of nanoseconds of the longest span. -/
def maxNanos : Nat := 18446744073709551615999999999

instance : DecidableEq Span := fun left right =>
  if same : left.nanos = right.nanos then
    isTrue (by cases left; cases right; simp_all)
  else isFalse (fun equal => same (congrArg Span.nanos equal))

theorem ext_nanos {left right : Span} (same : left.nanos = right.nanos) : left = right := by
  cases left; cases right; simp_all

/-- The span of a number of nanoseconds, or the longest span if there are too many. -/
def ofNanos (count : Nat) : Span :=
  ⟨min count maxNanos, Nat.min_le_right _ _⟩

/-- The span of a number of seconds. -/
def ofSeconds (count : Nat) : Span := ofNanos (count * 1000000000)

/-- The empty span. -/
def zero : Span := ⟨0, Nat.zero_le _⟩

/-- The span taken `factor` times, stopping at the longest span. -/
def scale (span : Span) (factor : Nat) : Span :=
  ofNanos (span.nanos * factor)

/-- Whole milliseconds in a span. -/
def millis (span : Span) : Nat := span.nanos / 1000000

theorem nanos_le_maxNanos (span : Span) : span.nanos ≤ maxNanos := span.nanos_le

theorem nanos_ofNanos (count : Nat) : (ofNanos count).nanos = min count maxNanos := rfl

theorem nanos_scale (span : Span) (factor : Nat) :
    (span.scale factor).nanos = min (span.nanos * factor) maxNanos := rfl

/-! ## Written form -/

/-- A number padded on the left with zeros to a given number of digits. -/
def paddedDigits (width number : Nat) : List Char :=
  let digits := Nat.toDigits 10 number
  List.replicate (width - digits.length) '0' ++ digits

/-- A digit list without the zeros at its end. -/
def dropTrailingZeros (digits : List Char) : List Char :=
  (digits.reverse.dropWhile (· = '0')).reverse

/-- `whole` followed by the fraction `part / 10 ^ width`, with no point when the fraction is zero. -/
def decimalText (whole part width : Nat) : String :=
  let fraction := dropTrailingZeros (paddedDigits width part)
  if fraction.isEmpty then toString whole
  else toString whole ++ "." ++ String.ofList fraction

/-- The written form of a span. -/
def text (span : Span) : String :=
  if 1000000000 ≤ span.nanos then
    decimalText (span.nanos / 1000000000) (span.nanos % 1000000000) 9 ++ "s"
  else if 1000000 ≤ span.nanos then
    decimalText (span.nanos / 1000000) (span.nanos % 1000000) 6 ++ "ms"
  else if 1000 ≤ span.nanos then
    decimalText (span.nanos / 1000) (span.nanos % 1000) 3 ++ "µs"
  else toString span.nanos ++ "ns"

end Span

end ResilientHttp
