/-! # Outcomes

How a sequence of steps that may fail comes to its result: it goes on with the result of a step that
succeeds, and stops at the first step that fails. -/

namespace BitcoinKeys

variable {ε δ α β : Type}

@[simp]
theorem ok_bind (value : α) (next : α → Except ε β) : (Except.ok value >>= next) = next value := rfl

@[simp]
theorem error_bind (error : ε) (next : α → Except ε β) :
    (Except.error error >>= next) = .error error := rfl

theorem bind_eq_ok_iff {step : Except ε α} {next : α → Except ε β} {result : β} :
    (step >>= next) = .ok result ↔ ∃ value, step = .ok value ∧ next value = .ok result := by
  cases step with
  | error error => simp
  | ok value => simp

theorem bind_eq_error_iff {step : Except ε α} {next : α → Except ε β} {error : ε} :
    (step >>= next) = .error error ↔
      step = .error error ∨ ∃ value, step = .ok value ∧ next value = .error error := by
  cases step with
  | error error => simp
  | ok value => simp

theorem map_eq_ok_iff {step : Except ε α} {change : α → β} {result : β} :
    step.map change = .ok result ↔ ∃ value, step = .ok value ∧ change value = result := by
  cases step with
  | error error => simp [Except.map]
  | ok value => simp [Except.map]

theorem map_eq_error_iff {step : Except ε α} {change : α → β} {error : ε} :
    step.map change = .error error ↔ step = .error error := by
  cases step with
  | error error => simp [Except.map]
  | ok value => simp [Except.map]

theorem map_some_eq_ok_iff {step : Except ε α} {result : α} :
    step.map some = .ok (some result) ↔ step = .ok result := by
  simp only [map_eq_ok_iff, Option.some.injEq, exists_eq_right]

theorem mapError_eq_ok_iff {step : Except ε α} {change : ε → δ} {result : α} :
    step.mapError change = .ok result ↔ step = .ok result := by
  constructor
  · intro equal
    cases step with
    | error error => cases equal
    | ok value =>
        cases equal
        rfl
  · intro equal
    rw [equal]
    rfl

theorem mapError_eq_error_iff {step : Except ε α} {change : ε → δ} {error : δ} :
    step.mapError change = .error error ↔ ∃ cause, step = .error cause ∧ change cause = error := by
  constructor
  · intro failed
    cases step with
    | error cause =>
        cases failed
        exact ⟨cause, rfl, rfl⟩
    | ok value => cases failed
  · intro failed
    rcases failed with ⟨cause, rfl, rfl⟩
    rfl

/-- A step whose failures are all of one kind fails in this way exactly if it does not succeed. -/
theorem exists_eq_error_iff {step : Except ε α} {wrap : δ → ε}
    (kind : ∀ error, step = .error error → ∃ cause, error = wrap cause) :
    (∃ cause, step = .error (wrap cause)) ↔ ¬ ∃ value, step = .ok value := by
  constructor
  · intro failed succeeded
    rcases failed with ⟨cause, failed⟩
    rcases succeeded with ⟨value, succeeded⟩
    rw [failed] at succeeded
    cases succeeded
  · intro unsuccessful
    cases step with
    | error error =>
        rcases kind error rfl with ⟨cause, rfl⟩
        exact ⟨cause, rfl⟩
    | ok value => exact absurd ⟨value, rfl⟩ unsuccessful

/-- A specification that some outcome meets, and that only the result of a run can meet, determines
the result. -/
theorem eq_iff_of_total {result : α} {Expected : α → Prop} (total : ∃ other, Expected other)
    (sound : ∀ {other}, Expected other → result = other) {outcome : α} :
    result = outcome ↔ Expected outcome := by
  constructor
  · intro equal
    rcases total with ⟨other, expected⟩
    rw [← equal, sound expected]
    exact expected
  · intro expected
    exact sound expected

end BitcoinKeys
