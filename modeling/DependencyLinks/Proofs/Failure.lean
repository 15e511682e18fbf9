import DependencyLinks.Failure

/-! Results seen only by the failure that they are. -/

namespace DependencyLinks

/-- The failure that a result is, if it is one. -/
def failure? {α : Type} : Except Failure α → Option Failure
  | .error failure => some failure
  | .ok _ => none

section

variable {α β : Type} {result : Except Failure α} {failure : Failure}

@[simp] theorem failure?_ok (value : α) : failure? (.ok value) = none := rfl

@[simp] theorem failure?_error (failure : Failure) :
    failure? (.error failure : Except Failure α) = some failure := rfl

theorem failure?_eq_some_iff : failure? result = some failure ↔ result = .error failure := by
  cases result <;> simp

theorem failure?_eq_none_iff : failure? result = none ↔ ∃ value, result = .ok value := by
  cases result <;> simp

/-- If the first of two steps fails, the second is not looked at. -/
theorem failure?_bind (result : Except Failure α) (next : α → Except Failure β) :
    failure? (result >>= next) =
      match result with
      | .error failure => some failure
      | .ok value => failure? (next value) := by
  cases result <;> rfl

end

end DependencyLinks
