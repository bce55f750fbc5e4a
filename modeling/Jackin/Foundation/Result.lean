import Mathlib

/-!
# Computations that may refuse

A fallible function answers with a value or a failure.  It goes on only when
conditions hold and when values are there; when such a function has answered
with a value, each of its steps has.
-/

namespace Jackin.Foundation.Result

variable {Failure Value Answer : Type} {first : Except Failure Value}

/-- Refuse unless a condition holds. -/
def require (condition : Prop) [Decidable condition]
    (failure : Failure) : Except Failure Unit :=
  if condition then .ok () else .error failure

/-- Refuse unless a value is there. -/
def present (value : Option Value) (failure : Failure) : Except Failure Value :=
  match value with
  | some value => .ok value
  | none => .error failure

@[simp]
theorem bind_eq_ok :
    (first >>= next) = .ok answer ↔
      ∃ value, first = .ok value ∧ next value = .ok answer := by
  cases first <;> simp [bind, Except.bind]

@[simp]
theorem map_eq_ok :
    first.map change = .ok answer ↔
      ∃ value, first = .ok value ∧ change value = answer := by
  cases first <;> simp [Except.map]

@[simp]
theorem functorMap_eq_ok :
    (change <$> first) = .ok answer ↔
      ∃ value, first = .ok value ∧ change value = answer :=
  map_eq_ok

@[simp]
theorem mapError_eq_ok {answer} :
    first.mapError change = .ok answer ↔ first = .ok answer := by
  cases first <;> simp [Except.mapError]

@[simp]
theorem pure_eq_ok {value answer} :
    (pure value : Except Failure Value) = .ok answer ↔ value = answer :=
  ⟨Except.ok.inj, congrArg Except.ok⟩

@[simp]
theorem require_eq_ok {condition : Prop} [Decidable condition]
    {failure : Failure} {answer} :
    require condition failure = .ok answer ↔ condition := by
  rw [require]
  split <;> simp [*]

@[simp]
theorem present_eq_ok {failure : Failure} :
    present value failure = .ok answer ↔ value = some answer := by
  cases value <;> simp [present]

end Jackin.Foundation.Result
