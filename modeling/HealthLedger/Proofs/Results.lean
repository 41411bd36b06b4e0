/-!
# Results that are there

A computation that may fail is known by its results: what a computation in steps results in, and
what is left of a result when something is done to it or to the error.
-/

namespace HealthLedger

/-- A computation in two steps has a result if both steps have one. -/
theorem bind_eq_ok_iff {ε α β : Type} {first : Except ε α} {next : α → Except ε β} {result : β} :
    (first >>= next) = .ok result ↔ ∃ middle, first = .ok middle ∧ next middle = .ok result := by
  cases first <;> simp [bind, Except.bind]

/-- The image of a result is there if the result is. -/
theorem map_eq_ok_iff {ε α β : Type} {f : α → β} {first : Except ε α} {result : β} :
    f <$> first = .ok result ↔ ∃ middle, first = .ok middle ∧ f middle = result := by
  cases first <;> simp [Functor.map, Except.map]

/-- The image of a result without its error is there if the result is. -/
theorem toOption_map_eq_some_iff {ε α β : Type} {f : α → β} {first : Except ε α} {result : β} :
    first.toOption.map f = some result ↔ ∃ middle, first = .ok middle ∧ f middle = result := by
  cases first <;> simp [Except.toOption]

/-- Changing an error does not change a result. -/
@[simp] theorem mapError_ok {ε δ α : Type} (f : ε → δ) (result : α) :
    (Except.ok result).mapError f = .ok result := rfl

/-- Changing an error changes it. -/
@[simp] theorem mapError_error {ε δ α : Type} (f : ε → δ) (error : ε) :
    (Except.error error : Except ε α).mapError f = .error (f error) := rfl

/-- Wording an error otherwise leaves a result as it is. -/
theorem mapError_eq_ok_iff {ε δ α : Type} {f : ε → δ} {first : Except ε α} {result : α} :
    first.mapError f = .ok result ↔ first = .ok result := by
  cases first <;> simp

end HealthLedger
