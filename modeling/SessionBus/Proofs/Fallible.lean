/-!
# Steps that may fail

How a chain of steps goes on after a step that succeeded, and what is known of a chain of which the
result is known.
-/

namespace SessionBus.Fallible

variable {ε ε' α β : Type}

@[simp]
theorem ok_bind (a : α) (next : α → Except ε β) : (Except.ok a >>= next) = next a :=
  rfl

@[simp]
theorem pure_eq_ok (a : α) : (pure a : Except ε α) = .ok a :=
  rfl

@[simp]
theorem ok_mapError (a : α) (f : ε → ε') : (Except.ok a : Except ε α).mapError f = .ok a :=
  rfl

@[simp]
theorem error_mapError (e : ε) (f : ε → ε') :
    (Except.error e : Except ε α).mapError f = .error (f e) :=
  rfl

/-- A chain that has succeeded has a first step that has. -/
theorem ok_of_bind
    {first : Except ε α} {next : α → Except ε β} {result : β}
    (done : (first >>= next) = .ok result) :
    ∃ value, first = .ok value ∧ next value = .ok result := by
  cases first with
  | error e =>
      cases done
  | ok value =>
      exact ⟨value, rfl, done⟩

theorem eq_error_of_map
    {result : Except ε α} {f : α → β} {e : ε} (failed : result.map f = .error e) :
    result = .error e := by
  cases result with
  | error other =>
      simpa [Except.map] using failed
  | ok value =>
      simp [Except.map] at failed

theorem eq_ok_of_map
    {result : Except ε α} {f : α → β} {expected : β}
    (succeeded : result.map f = .ok expected) :
    ∃ value, result = .ok value ∧ f value = expected := by
  cases result with
  | error e =>
      simp [Except.map] at succeeded
  | ok value =>
      exact ⟨value, rfl, by simpa [Except.map] using succeeded⟩

end SessionBus.Fallible
