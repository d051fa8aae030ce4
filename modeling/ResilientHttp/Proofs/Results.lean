/-!
# Results

A result is a value or a fault. Here is when a result that was put together from others is a value:
when every one of its steps is. The laws are for taking the readings and checks of the library apart,
step by step.
-/

set_option autoImplicit false

namespace ResilientHttp.Results

variable {Fault Other Value Next : Type}

/-- Two steps give a value if the first does, and the second with it. -/
theorem bind_eq_ok_iff {first : Except Fault Value} {second : Value → Except Fault Next}
    {next : Next} :
    first >>= second = .ok next ↔ ∃ value, first = .ok value ∧ second value = .ok next := by
  cases first with
  | error fault => simp [bind, Except.bind]
  | ok value => simp [bind, Except.bind]

/-- A result whose value is changed is a value if it was one. -/
theorem map_eq_ok_iff {result : Except Fault Value} {change : Value → Next} {next : Next} :
    result.map change = .ok next ↔ ∃ value, result = .ok value ∧ change value = next := by
  cases result with
  | error fault => simp [Except.map]
  | ok value => simp [Except.map]

theorem mapError_ok (value : Value) (change : Fault → Other) :
    (Except.ok value).mapError change = .ok value :=
  rfl

theorem mapError_error (fault : Fault) (change : Fault → Other) :
    (Except.error fault : Except Fault Value).mapError change = .error (change fault) :=
  rfl

/-- A result whose fault is changed is the same value if it was one. -/
theorem mapError_eq_ok_iff {result : Except Fault Value} {change : Fault → Other} {value : Value} :
    result.mapError change = .ok value ↔ result = .ok value := by
  cases result with
  | error fault => exact ⟨nofun, nofun⟩
  | ok same =>
      constructor <;> intro equal
      · cases equal
        rfl
      · cases equal
        rfl

/-- A result that is no value is a fault. -/
theorem exists_error_of_not_ok {result : Except Fault Value}
    (never : ∀ value, result ≠ .ok value) : ∃ fault, result = .error fault := by
  cases result with
  | error fault => exact ⟨fault, rfl⟩
  | ok value => exact absurd rfl (never value)

end ResilientHttp.Results
