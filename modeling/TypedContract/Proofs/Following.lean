/-
# TypedContract.Proofs.Following -- runs that differ in descriptions

Two sessions are `Reworded` when they differ in the descriptions of their types, in their
diagnostics and in their logs only.  A step `Follows` another when it comes back from a
reworded session whenever the other does, with a result that is related to the other's
and into a session that is reworded again.  It is passed on by each way in which steps
are put together, so two runs over two documents are compared step by step.
-/
import TypedContract.Proofs.Agreeing
import TypedContract.Proofs.Returning
import TypedContract.Proofs.Ty.Undescribed

namespace TypedContract

set_option autoImplicit false

/-- The sessions differ in descriptions, in diagnostics and in the log only. -/
structure Session.Reworded (s s' : Session) : Prop where
  registry : s.registry.Reworded s'.registry
  hoisted : s'.hoisted = s.hoisted
  rebuilding : s'.rebuilding = s.rebuilding

namespace Session.Reworded

variable {s s' s'' : Session}

theorem refl (s : Session) : s.Reworded s := ⟨⟨rfl⟩, rfl, rfl⟩

theorem symm (reworded : s.Reworded s') : s'.Reworded s :=
  ⟨⟨reworded.registry.same.symm⟩, reworded.hoisted.symm, reworded.rebuilding.symm⟩

theorem trans (first : s.Reworded s') (second : s'.Reworded s'') : s.Reworded s'' :=
  ⟨⟨second.registry.same.trans first.registry.same⟩, second.hoisted.trans first.hoisted,
    second.rebuilding.trans first.rebuilding⟩

end Session.Reworded

namespace Run

variable {α β γ δ : Type} {related : α → β → Prop} {final : γ → δ → Prop}
  {step : Run α} {step' : Run β}

/-- Whenever the first step comes back, so does the second, from reworded sessions into
reworded sessions and with related results. -/
structure Follows (related : α → β → Prop) (step : Run α) (step' : Run β) : Prop where
  keeps : ∀ {s s' t : Session} {a : α}, s.Reworded s' → Returns step s a t →
    ∃ a' t', Returns step' s' a' t' ∧ related a a' ∧ t.Reworded t'

namespace Follows

/-! ## Results -/

theorem pure {a : α} {b : β} (own : related a b) :
    Follows related (Pure.pure a) (Pure.pure b) := by
  refine ⟨fun {s s' t c} reworded returned => ?_⟩
  obtain ⟨rfl, rfl⟩ := returns_pure.1 returned
  exact ⟨b, s', returns_pure.2 ⟨rfl, rfl⟩, own, reworded⟩

theorem throw {fault : Fault} : Follows related (MonadExcept.throw fault) step' :=
  ⟨fun _ returned => absurd returned not_returns_throw⟩

theorem mono {further : α → β → Prop} (follows : Follows related step step')
    (weaker : ∀ {a b}, related a b → further a b) : Follows further step step' := by
  refine ⟨fun {s s' t a} reworded returned => ?_⟩
  obtain ⟨b, t', returned', own, after⟩ := follows.keeps reworded returned
  exact ⟨b, t', returned', weaker own, after⟩

theorem lift {result : Except Fault α} {result' : Except Fault β}
    (holds : ∀ a, result = .ok a → ∃ b, result' = .ok b ∧ related a b) :
    Follows related (Run.lift result) (Run.lift result') := by
  refine ⟨fun {s s' t a} reworded returned => ?_⟩
  obtain ⟨found, rfl⟩ := returns_lift.1 returned
  obtain ⟨b, found', own⟩ := holds a found
  exact ⟨b, s', returns_lift.2 ⟨found', rfl⟩, own, reworded⟩

/-- A result of which it only matters that it is there. -/
theorem found {result : Except Fault α} {result' : Except Fault β}
    (holds : ∀ a, result = .ok a → ∃ b, result' = .ok b) :
    Follows (fun _ _ => True) (Run.lift result) (Run.lift result') :=
  lift fun a found => (holds a found).imp fun _ found' => ⟨found', trivial⟩

theorem of_agree {result : Except Fault α} {result' : Except Fault β}
    (agree : Agree related result result') :
    Follows related (Run.lift result) (Run.lift result') :=
  lift fun _ found => agree.exists_right found

/-! ## One after the other -/

theorem bind {next : α → Run γ} {next' : β → Run δ} (first : Follows related step step')
    (rest : ∀ a b, related a b → Follows final (next a) (next' b)) :
    Follows final (step >>= next) (step' >>= next') := by
  refine ⟨fun {s s' t c} reworded returned => ?_⟩
  obtain ⟨a, u, head, tail⟩ := returns_bind.1 returned
  obtain ⟨b, u', head', own, between⟩ := first.keeps reworded head
  obtain ⟨d, t', tail', final, after⟩ := (rest a b own).keeps between tail
  exact ⟨d, t', returns_bind.2 ⟨b, u', head', tail'⟩, final, after⟩

/-- A result that is the same on both sides. -/
theorem read {result result' : Except Fault α} {next : α → Run γ} {next' : α → Run δ}
    (same : result' = result) (rest : ∀ a, result = .ok a → Follows final (next a) (next' a)) :
    Follows final (Run.lift result >>= next) (Run.lift result' >>= next') := by
  refine ⟨fun {s s' t c} reworded returned => ?_⟩
  obtain ⟨a, u, head, tail⟩ := returns_bind.1 returned
  obtain ⟨found, rfl⟩ := returns_lift.1 head
  obtain ⟨d, t', tail', final, after⟩ := (rest a found).keeps reworded tail
  exact ⟨d, t', returns_bind.2 ⟨a, s', returns_lift.2 ⟨same.trans found, rfl⟩, tail'⟩, final, after⟩

theorem map {f : α → γ} {f' : β → δ} (first : Follows related step step')
    (results : ∀ a b, related a b → final (f a) (f' b)) :
    Follows final (f <$> step) (f' <$> step') := by
  rw [map_eq_pure_bind, map_eq_pure_bind]
  exact bind first fun a b own => pure (results a b own)

/-- Steps over related lists follow one after the other. -/
theorem mapM {xs : List α} {ys : List β} {next : α → Run γ} {next' : β → Run δ}
    (lists : List.Forall₂ related xs ys)
    (each : ∀ a b, related a b → Follows final (next a) (next' b)) :
    Follows (List.Forall₂ final) (xs.mapM next) (ys.mapM next') := by
  induction lists with
  | nil => exact pure .nil
  | cons head tail ih =>
      rw [List.mapM_cons, List.mapM_cons]
      exact bind (each _ _ head) fun c d own => bind ih fun cs ds rest => pure (.cons own rest)

theorem mapM_same {xs : List α} {next : α → Run γ} {next' : α → Run δ}
    (each : ∀ x ∈ xs, Follows final (next x) (next' x)) :
    Follows (List.Forall₂ final) (xs.mapM next) (xs.mapM next') := by
  induction xs with
  | nil => exact pure .nil
  | cons x xs ih =>
      obtain ⟨first, others⟩ := List.forall_mem_cons.1 each
      rw [List.mapM_cons, List.mapM_cons]
      exact bind first fun c d own => bind (ih others) fun cs ds rest => pure (.cons own rest)

theorem forM {xs : List α} {next next' : α → Run PUnit}
    (each : ∀ a, Follows Eq (next a) (next' a)) : Follows Eq (xs.forM next) (xs.forM next') := by
  induction xs with
  | nil => exact pure rfl
  | cons x xs ih => exact bind (each x) fun _ _ _ => ih

/-! ## Sessions -/

theorem get : Follows Session.Reworded (MonadState.get : Run Session) MonadState.get := by
  refine ⟨fun {s s' t u} reworded returned => ?_⟩
  obtain ⟨rfl, rfl⟩ := returns_get.1 returned
  exact ⟨s', s', returns_get.2 ⟨rfl, rfl⟩, reworded, reworded⟩

theorem registry : Follows Registry.Reworded Run.registry Run.registry :=
  bind get fun _ _ reworded => pure reworded.registry

theorem modify {change change' : Session → Session}
    (keeps : ∀ s s', s.Reworded s' → (change s).Reworded (change' s')) :
    Follows Eq (modify change : Run PUnit) (modify change') := by
  refine ⟨fun {s s' t a} reworded returned => ?_⟩
  obtain rfl := returns_modify.1 returned
  exact ⟨⟨⟩, change' s', returns_modify.2 rfl, rfl, keeps s s' reworded⟩

theorem report {code code' : Diagnostic.Code} {args args' : List String} :
    Follows Eq (Run.report code args) (Run.report code' args') :=
  modify fun _ _ reworded => ⟨reworded.registry, reworded.hoisted, reworded.rebuilding⟩

theorem note {level level' : Log.Level} {source source' : Log.Source} {message message' : String} :
    Follows Eq (Run.note level source message) (Run.note level' source' message') :=
  modify fun _ _ reworded => ⟨reworded.registry, reworded.hoisted, reworded.rebuilding⟩

theorem onRegistry {change change' : Registry → Registry}
    (keeps : ∀ r r' : Registry, r.Reworded r' → (change r).Reworded (change' r')) :
    Follows Eq (Run.onRegistry change) (Run.onRegistry change') :=
  modify fun _ _ reworded =>
    ⟨keeps _ _ reworded.registry, reworded.hoisted, reworded.rebuilding⟩

theorem rollback {mark mark' : Int} (same : mark' = mark) :
    Follows Eq (Run.rollback mark) (Run.rollback mark') := by
  subst same
  refine bind registry fun r r' reworded => bind (onRegistry fun _ _ own => own.rollback mark')
    fun _ _ _ => ?_
  rw [reworded.beyond]
  exact forM fun _ => note

theorem afterwards {change : Except Fault α → Session → Session}
    {change' : Except Fault β → Session → Session} (follows : Follows related step step')
    (keeps : ∀ {a b} (s s' : Session), related a b → s.Reworded s' →
      (change (.ok a) s).Reworded (change' (.ok b) s')) :
    Follows related (Run.afterwards step change) (Run.afterwards step' change') := by
  refine ⟨fun {s s' t a} reworded returned => ?_⟩
  obtain ⟨u, inside, rfl⟩ := returns_afterwards.1 returned
  obtain ⟨b, u', inside', own, after⟩ := follows.keeps reworded inside
  exact ⟨b, _, returns_afterwards.2 ⟨u', inside', rfl⟩, own, keeps u u' own after⟩

/-! ## Registrations -/

theorem begun {s s' : Session} (reworded : s.Reworded s') (name : String) :
    (Run.begun s name).Reworded (Run.begun s' name) :=
  ⟨reworded.registry.start name, reworded.hoisted, reworded.rebuilding⟩

theorem finished {s s' : Session} (reworded : s.Reworded s') (name : String) {type type' : Ty}
    (same : type.Reworded type') : (Run.finished s name type).Reworded (Run.finished s' name type') :=
  ⟨reworded.registry.leave same name, reworded.hoisted, reworded.rebuilding⟩

/-- A name that stands for a type stands for a reworded one. -/
theorem register {name : String} {factory factory' : Run Ty}
    (follows : Follows Ty.Reworded factory factory') :
    Follows Ty.Reworded (Run.register name factory) (Run.register name factory') := by
  refine ⟨fun {s s' t type} reworded returned => ?_⟩
  rcases returns_register.1 returned with ⟨known, rfl⟩ | ⟨entered, u, built, rfl⟩
  · obtain ⟨type', known', same⟩ : ∃ type', s'.registry.enter name = .inl type' ∧
        type.Reworded type' := by
      have held := reworded.registry.get? name
      rcases Registry.enter_eq_inl_iff.1 known with found | ⟨absent, progress, rfl⟩
      · rw [found] at held
        cases found' : s'.registry.get? name with
        | none => rw [found'] at held; cases held
        | some type' =>
            rw [found'] at held
            cases held with
            | some same => exact ⟨type', Registry.enter_eq_inl_iff.2 (.inl found'), same⟩
      · rw [absent] at held
        cases absent' : s'.registry.get? name with
        | none =>
            exact ⟨_, Registry.enter_eq_inl_iff.2 (.inr ⟨absent',
              reworded.registry.building ▸ progress, rfl⟩), rfl⟩
        | some type' => rw [absent'] at held; cases held
    exact ⟨type', s', returns_register.2 (.inl ⟨known', rfl⟩), same, reworded⟩
  · have fresh := (Registry.enter_eq_inr_iff.1 entered).1
    have entered' : s'.registry.enter name = .inr (s'.registry.start name) :=
      Registry.enter_eq_inr_iff.2 ⟨(reworded.registry.contains name).trans fresh, rfl⟩
    obtain ⟨type', u', built', same, after⟩ := follows.keeps (begun reworded name) built
    exact ⟨type', _, returns_register.2 (.inr ⟨entered', u', built', rfl⟩), same,
      finished after name same⟩

end Follows

end Run

end TypedContract
