/-!
# Results

A computation that can fail succeeds only if each of its parts does.
-/

namespace PageCompiler

variable {ε α β : Type}

theorem map_eq_ok {f : α → β} {result : Except ε α} {b : β} (h : f <$> result = .ok b) :
    ∃ a, result = .ok a ∧ f a = b := by
  cases result with
  | error e => cases h
  | ok a => exact ⟨a, rfl, Except.ok.inj h⟩

theorem map_eq_error {f : α → β} {result : Except ε α} {e : ε} (h : f <$> result = .error e) :
    result = .error e := by
  cases result with
  | error earlier => exact congrArg _ (Except.error.inj h)
  | ok a => cases h

theorem mapError_eq_ok {δ : Type} {f : ε → δ} {result : Except ε α} {a : α}
    (h : result.mapError f = .ok a) : result = .ok a := by
  cases result with
  | error e => cases h
  | ok found => exact congrArg _ (Except.ok.inj h)

/-- A result with a property, found by computing it. -/
theorem exists_ok_of_any {result : Except ε α} {p : α → Bool}
    (h : result.toOption.any p = true) : ∃ a, result = .ok a ∧ p a = true := by
  cases result with
  | error e => cases h
  | ok a => exact ⟨a, rfl, h⟩

theorem bind_eq_ok {f : α → Except ε β} {result : Except ε α} {b : β}
    (h : result >>= f = .ok b) : ∃ a, result = .ok a ∧ f a = .ok b := by
  cases result with
  | error e => cases h
  | ok a => exact ⟨a, rfl, h⟩

theorem bind_eq_error {f : α → Except ε β} {result : Except ε α} {e : ε}
    (h : result >>= f = .error e) : result = .error e ∨ ∃ a, result = .ok a ∧ f a = .error e := by
  cases result with
  | error earlier => exact .inl (congrArg _ (Except.error.inj h))
  | ok a => exact .inr ⟨a, rfl, h⟩

end PageCompiler
