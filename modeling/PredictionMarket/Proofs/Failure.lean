import PredictionMarket.Failure

/-!
# Steps that may fail

A step whose failure and whose value are known apart is settled by both. Steps in a row are settled
by the first failure among them.
-/

namespace PredictionMarket.Failure

variable {α β : Type}

/-- Of two steps in a row the first failure counts. -/
theorem settle_bind (first : Option Failure) (value : α) (second : α → Option Failure)
    (next : α → β) :
    (settle first value >>= fun result => settle (second result) (next result)) =
      settle (first.or (second value)) (next value) := by
  cases first <;> rfl

/-- What is computed from the value of a step fails as the step does. -/
theorem settle_map (failure? : Option Failure) (value : α) (next : α → β) :
    (settle failure? value >>= fun result => pure (next result)) =
      settle failure? (next value) := by
  cases failure? <;> rfl

/-- A step returns a value exactly when there is no failure. -/
theorem settle_eq_ok_iff {failure? : Option Failure} {value result : α} :
    settle failure? value = .ok result ↔ failure? = none ∧ value = result := by
  cases failure? <;> simp [settle]

/-- A step fails exactly with its failure. -/
theorem settle_eq_error_iff {failure? : Option Failure} {value : α} {failure : Failure} :
    settle failure? value = .error failure ↔ failure? = some failure := by
  cases failure? <;> simp [settle]

end PredictionMarket.Failure
