/-
# TypedContract.Proofs.Returning -- what it takes for a step to come back

A step of a run maps a session to a result or a fault and to the session after
it.  `Run.Returns step s a t` says that `step`, begun in `s`, comes back with `a`
and leaves `t`.  Each way of putting steps together has one lemma that says when
it returns, so the proofs about runs never unfold the monad.
-/
import TypedContract.Session

namespace TypedContract.Run

set_option autoImplicit false

variable {α β : Type}

/-- The result or the fault of a step, and the session after it. -/
def outcome (step : Run α) (s : Session) : Except Fault α × Session := step.run s

/-- The step comes back with a result and leaves a session. -/
def Returns (step : Run α) (s : Session) (a : α) (t : Session) : Prop :=
  step.outcome s = (.ok a, t)

theorem Returns.unique {step : Run α} {s t t' : Session} {a a' : α}
    (first : Returns step s a t) (second : Returns step s a' t') : a = a' ∧ t = t' := by
  have same : ((.ok a, t) : Except Fault α × Session) = (.ok a', t') := first.symm.trans second
  simpa using same

/-- The step comes back, and its result and the session after it pass a check. -/
def passes (step : Run α) (s : Session) (check : α → Session → Bool) : Bool :=
  match step.outcome s with
  | (.ok a, t) => check a t
  | (.error _, _) => false

/-- A step that passes a check comes back with such a result and session. -/
theorem exists_returns_of {step : Run α} {s : Session} {check : α → Session → Bool}
    (ok : step.passes s check = true) : ∃ a t, Returns step s a t ∧ check a t = true := by
  unfold Returns
  unfold passes at ok
  cases outcome : step.outcome s with
  | mk result t =>
      rw [outcome] at ok
      cases result with
      | ok a => exact ⟨a, t, rfl, ok⟩
      | error fault => cases ok

/-- A step that does not fault comes back. -/
theorem exists_returns {step : Run α} {s : Session}
    (ok : (step.passes s fun _ _ => true) = true) : ∃ a t, Returns step s a t := by
  obtain ⟨a, t, returned, -⟩ := exists_returns_of ok
  exact ⟨a, t, returned⟩

/-! ## Putting steps together -/

theorem outcome_bind (step : Run α) (next : α → Run β) (s : Session) :
    (step >>= next).outcome s =
      match step.outcome s with
      | (.ok a, t) => (next a).outcome t
      | (.error fault, t) => (.error fault, t) := by
  change (ExceptT.bind step next).run s = _
  simp only [ExceptT.bind, ExceptT.run, ExceptT.mk, bind, StateT.bind, ExceptT.bindCont, outcome]
  cases step s with
  | mk result t => cases result <;> rfl

@[simp] theorem returns_bind {step : Run α} {next : α → Run β} {s t : Session} {b : β} :
    Returns (step >>= next) s b t ↔ ∃ a u, Returns step s a u ∧ Returns (next a) u b t := by
  unfold Returns
  rw [outcome_bind]
  cases step.outcome s with
  | mk result u =>
      cases result with
      | ok a =>
          constructor
          · exact fun h => ⟨a, u, rfl, h⟩
          · rintro ⟨a', u', same, h⟩
            cases same
            exact h
      | error fault =>
          constructor
          · intro h
            cases h
          · rintro ⟨a', u', same, -⟩
            cases same

@[simp] theorem returns_pure {s t : Session} {a b : α} :
    Returns (pure a) s b t ↔ a = b ∧ s = t := by
  constructor
  · intro h
    cases h
    exact ⟨rfl, rfl⟩
  · rintro ⟨rfl, rfl⟩
    rfl

@[simp] theorem returns_map {step : Run α} {f : α → β} {s t : Session} {b : β} :
    Returns (f <$> step) s b t ↔ ∃ a, Returns step s a t ∧ f a = b := by
  rw [map_eq_pure_bind, returns_bind]
  simp only [returns_pure]
  constructor
  · rintro ⟨a, u, h, rfl, rfl⟩
    exact ⟨a, h, rfl⟩
  · rintro ⟨a, h, rfl⟩
    exact ⟨a, t, h, rfl, rfl⟩

theorem returns_forM_nil {step : α → Run PUnit} {s t : Session} {a : PUnit} :
    Returns (List.forM [] step) s a t ↔ s = t := by
  change Returns (pure ⟨⟩) s a t ↔ _
  rw [returns_pure]
  exact and_iff_right rfl

theorem returns_forM_cons {x : α} {xs : List α} {step : α → Run PUnit} {s t : Session}
    {a : PUnit} :
    Returns (List.forM (x :: xs) step) s a t ↔
      ∃ b u, Returns (step x) s b u ∧ Returns (List.forM xs step) u a t := by
  change Returns (step x >>= fun _ => List.forM xs step) s a t ↔ _
  rw [returns_bind]

/-! ## The steps themselves -/

@[simp] theorem returns_lift {result : Except Fault α} {s t : Session} {a : α} :
    Returns (lift result) s a t ↔ result = .ok a ∧ s = t := by
  cases result with
  | ok b =>
      constructor
      · intro h
        cases h
        exact ⟨rfl, rfl⟩
      · rintro ⟨same, rfl⟩
        cases same
        rfl
  | error fault =>
      constructor
      · intro h
        cases h
      · rintro ⟨same, -⟩
        cases same

theorem not_returns_throw {fault : Fault} {s t : Session} {a : α} :
    ¬ Returns (throw fault : Run α) s a t := by
  intro h
  cases h

@[simp] theorem returns_get {s t u : Session} : Returns get s u t ↔ s = u ∧ s = t := by
  constructor
  · intro h
    cases h
    exact ⟨rfl, rfl⟩
  · rintro ⟨rfl, rfl⟩
    rfl

@[simp] theorem returns_modify {f : Session → Session} {s t : Session} {a : PUnit} :
    Returns (modify f) s a t ↔ f s = t := by
  constructor
  · intro h
    cases h
    rfl
  · rintro rfl
    rfl

@[simp] theorem returns_registry {s t : Session} {r : Registry} :
    Returns registry s r t ↔ s.registry = r ∧ s = t := by
  unfold registry
  simp only [returns_bind, returns_get, returns_pure]
  constructor
  · rintro ⟨u, v, ⟨rfl, rfl⟩, rfl, rfl⟩
    exact ⟨rfl, rfl⟩
  · rintro ⟨rfl, rfl⟩
    exact ⟨s, s, ⟨rfl, rfl⟩, rfl, rfl⟩

@[simp] theorem returns_report {code : Diagnostic.Code} {args : List String} {s t : Session}
    {a : Unit} :
    Returns (report code args) s a t ↔
      { s with diagnostics := s.diagnostics ++ [⟨code, args, none⟩] } = t := returns_modify

@[simp] theorem returns_note {level : Log.Level} {source : Log.Source} {message : String}
    {s t : Session} {a : Unit} :
    Returns (note level source message) s a t ↔
      { s with log := s.log ++ [⟨level, source, message⟩] } = t := returns_modify

@[simp] theorem returns_onRegistry {change : Registry → Registry} {s t : Session} {a : Unit} :
    Returns (onRegistry change) s a t ↔ { s with registry := change s.registry } = t :=
  returns_modify

/-- A step with an afterthought returns when the step does. -/
@[simp] theorem returns_afterwards {step : Run α} {change : Except Fault α → Session → Session}
    {s t : Session} {a : α} :
    Returns (afterwards step change) s a t ↔ ∃ u, Returns step s a u ∧ change (.ok a) u = t := by
  unfold Returns
  have opened : (afterwards step change).outcome s =
      ((step.outcome s).1, change (step.outcome s).1 (step.outcome s).2) := rfl
  rw [opened]
  cases step.outcome s with
  | mk result u =>
      constructor
      · intro h
        cases h
        exact ⟨u, rfl, rfl⟩
      · rintro ⟨v, same, rfl⟩
        cases same
        rfl

/-! ## Registrations -/

/-- The session in which a name has just begun to be built. -/
def begun (s : Session) (name : String) : Session :=
  { s with registry := s.registry.start name }

/-- The session in which a name has just been given its type. -/
def finished (s : Session) (name : String) (type : Ty) : Session :=
  { s with
    registry := s.registry.leave name (some type)
    log := s.log ++ [⟨.debug, .registry, "registered type " ++ name⟩] }

/-- A registration finds what the name stands for, or builds it. -/
theorem returns_register {name : String} {factory : Run Ty} {s t : Session} {type : Ty} :
    Returns (register name factory) s type t ↔
      (s.registry.enter name = .inl type ∧ s = t) ∨
      (s.registry.enter name = .inr (s.registry.start name) ∧
        ∃ u, Returns factory (begun s name) type u ∧ finished u name type = t) := by
  unfold register
  simp only [returns_bind, returns_registry]
  have entered : (∃ known, s.registry.enter name = .inl known) ∨
      s.registry.enter name = .inr (s.registry.start name) := by
    unfold Registry.enter
    cases s.registry.get? name with
    | some known => exact .inl ⟨known, rfl⟩
    | none =>
        cases s.registry.inProgress name with
        | true => exact .inl ⟨_, rfl⟩
        | false => exact .inr rfl
  constructor
  · rintro ⟨r, u, ⟨rfl, rfl⟩, h⟩
    rcases entered with ⟨known, found⟩ | found
    · rw [found] at h
      obtain ⟨rfl, rfl⟩ := returns_pure.1 h
      exact .inl ⟨found, rfl⟩
    · rw [found] at h
      simp only [returns_bind, returns_onRegistry, returns_afterwards, returns_note,
        returns_pure] at h
      obtain ⟨-, v, rfl, built, w, ⟨x, inside, rfl⟩, -, y, rfl, rfl, rfl⟩ := h
      exact .inr ⟨found, x, inside, rfl⟩
  · rintro (⟨found, rfl⟩ | ⟨found, u, inside, rfl⟩)
    · refine ⟨_, s, ⟨rfl, rfl⟩, ?_⟩
      rw [found]
      exact returns_pure.2 ⟨rfl, rfl⟩
    · refine ⟨_, s, ⟨rfl, rfl⟩, ?_⟩
      rw [found]
      simp only [returns_bind, returns_onRegistry, returns_afterwards, returns_note,
        returns_pure]
      exact ⟨(), _, rfl, type, _, ⟨u, inside, rfl⟩, (), _, rfl, rfl, rfl⟩

/-! ## Rolling back -/

/-- Notes about dropped types change nothing else. -/
theorem exists_forM_note (names : List String) {level : Log.Level} {source : Log.Source}
    {message : String → String} (s : Session) :
    ∃ log, Returns (names.forM fun name => note level source (message name)) s ()
      { s with log := log } := by
  induction names generalizing s with
  | nil => exact ⟨s.log, returns_forM_nil.2 rfl⟩
  | cons name names ih =>
      obtain ⟨log, rest⟩ := ih { s with log := s.log ++ [⟨level, source, message name⟩] }
      exact ⟨log, returns_forM_cons.2 ⟨(), _, returns_note.2 rfl, rest⟩⟩

/-- Rolling back changes the registry and the log only. -/
theorem exists_rollback (mark : Int) (t : Session) :
    ∃ log, Returns (rollback mark) t ()
      { t with registry := t.registry.rollback mark, log := log } := by
  obtain ⟨log, noted⟩ := exists_forM_note (t.registry.beyond mark)
    { t with registry := t.registry.rollback mark }
  refine ⟨log, ?_⟩
  unfold rollback
  simp only [returns_bind, returns_registry, returns_onRegistry]
  exact ⟨_, t, ⟨rfl, rfl⟩, (), _, rfl, noted⟩

end TypedContract.Run
