/-! # Results and errors

What is known of a computation that has come to a result.
-/

set_option autoImplicit false

namespace ResourceFilter

variable {ε α β : Type}

/-- What succeeds in two steps succeeds in each of them. -/
theorem bind_eq_ok {first : Except ε α} {next : α → Except ε β} {result : β}
    (both : first >>= next = .ok result) : ∃ a, first = .ok a ∧ next a = .ok result := by
  cases first with
  | error => cases both
  | ok a => exact ⟨a, rfl, both⟩

/-- What fails in two steps fails in one of them. -/
theorem bind_eq_error {first : Except ε α} {next : α → Except ε β} {error : ε}
    (failed : first >>= next = .error error) :
    first = .error error ∨ ∃ a, first = .ok a ∧ next a = .error error := by
  cases first with
  | error other =>
    cases failed
    exact .inl rfl
  | ok a => exact .inr ⟨a, rfl, failed⟩

/-- A result is an error exactly if it is not a value. -/
theorem exists_error_iff {result : Except ε α} :
    (∃ error, result = .error error) ↔ ¬∃ a, result = .ok a := by
  cases result <;> simp

/-- What has a result succeeds with it. -/
theorem eq_ok_of_toOption {result : Except ε α} {a : α}
    (found : result.toOption = some a) : result = .ok a := by
  cases result with
  | error => cases found
  | ok b =>
    cases found
    rfl

end ResourceFilter
