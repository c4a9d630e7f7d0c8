/-
# TypedContract.Proofs.Agreeing -- steps that fault alike

Two steps that may fault agree on related results: both succeed, with results that are
related, or both fail with the same fault.  Agreement is passed on by every way of putting
steps together.
-/
import TypedContract.Proofs.Steps

namespace TypedContract

set_option autoImplicit false

/-- Both steps succeed with related results, or both fail with the same fault. -/
inductive Agree {ε α β : Type} (related : α → β → Prop) : Except ε α → Except ε β → Prop where
  | ok {a : α} {b : β} (results : related a b) : Agree related (.ok a) (.ok b)
  | error {fault : ε} : Agree related (.error fault) (.error fault)

namespace Agree

variable {ε α β γ δ : Type} {related further : α → β → Prop} {final : γ → δ → Prop}
  {step : Except ε α} {step' : Except ε β}

theorem refl (step : Except ε α) : Agree Eq step step := by
  cases step with
  | ok a => exact .ok rfl
  | error fault => exact .error

theorem of_eq {step step' : Except ε α} (same : step' = step) : Agree Eq step step' :=
  same ▸ refl step

theorem eq {step step' : Except ε α} (agree : Agree Eq step step') : step' = step := by
  cases agree with
  | ok same => rw [same]
  | error => rfl

theorem mono (agree : Agree related step step') (weaker : ∀ {a b}, related a b → further a b) :
    Agree further step step' := by
  cases agree with
  | ok results => exact .ok (weaker results)
  | error => exact .error

theorem bind {next : α → Except ε γ} {next' : β → Except ε δ} (agree : Agree related step step')
    (rest : ∀ a b, related a b → Agree final (next a) (next' b)) :
    Agree final (step >>= next) (step' >>= next') := by
  cases agree with
  | ok results => exact rest _ _ results
  | error => exact .error

/-- A first step that is the same on both sides. -/
theorem read {step step' : Except ε α} {next : α → Except ε γ} {next' : α → Except ε δ}
    (same : step' = step) (rest : ∀ a, step = .ok a → Agree final (next a) (next' a)) :
    Agree final (step >>= next) (step' >>= next') := by
  rw [same]
  cases step with
  | ok a => exact rest a rfl
  | error => exact .error

/-- The second step succeeds when the first does. -/
theorem exists_right (agree : Agree related step step') {a : α} (returned : step = .ok a) :
    ∃ b, step' = .ok b ∧ related a b := by
  cases agree with
  | ok results =>
      cases returned
      exact ⟨_, rfl, results⟩
  | error => cases returned

/-- The first step succeeds when the second does. -/
theorem exists_left (agree : Agree related step step') {b : β} (returned : step' = .ok b) :
    ∃ a, step = .ok a ∧ related a b := by
  cases agree with
  | ok results =>
      cases returned
      exact ⟨_, rfl, results⟩
  | error => cases returned

end Agree

end TypedContract
