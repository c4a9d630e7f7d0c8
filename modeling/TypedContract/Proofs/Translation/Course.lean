/-
# TypedContract.Proofs.Translation.Course -- one thing after the other

A translation does few things to a session: it notes something, gives a name to a place,
begins to build a name, ends with its type or gives it up.  `Session.Moves` lists them, and
a `Session.Course` of a name is a sequence of them through which the name stays registered
or in progress.  A name is given to a place only while it is neither, so along its course
the place that it was given to last is the same (`Course.lookup`).

A translation that comes back gives up nothing, so it is a course of every name that it
found (`Derives.course`).  One that faults is still a sequence of moves: `Run.Roams` is
passed on by the rules of translations.  So calls on a translator are a course of every name
that is registered before them, whatever comes of them (`Translator.course_of_attempts`).
-/
import Mathlib.Logic.Relation
import TypedContract.Proofs.Registry.Nested
import TypedContract.Proofs.Translation.Alike
import TypedContract.Proofs.Translation.Ending
import TypedContract.Proofs.Translation.Registration

namespace TypedContract

set_option autoImplicit false

open Translation

/-! ## Moves -/

namespace Session

variable {s t u : Session} {name other : String} {type : Ty}

/-- One thing that a translation does to a session. -/
inductive Moves : Session → Session → Prop where
  /-- It adds to the diagnostics, to the log or to what is being built anew. -/
  | notes {s t : Session} (registry : t.registry = s.registry) (hoisted : t.hoisted = s.hoisted) :
      Moves s t
  | gives {s : Session} {name : String} (place : Option Place)
      (fresh : s.registry.contains name = false) : Moves s (hoisting s name place)
  | begins {s : Session} {name : String} (fresh : s.registry.contains name = false) :
      Moves s (Run.begun s name)
  | ends {s : Session} (name : String) (type : Ty) : Moves s (Run.finished s name type)
  | abandons {s : Session} (name : String) : Moves s (Run.abandoned s name)

/-- A name that is registered or in progress keeps the place it was given to last. -/
theorem Moves.lookup (moves : s.Moves t) (held : s.registry.contains name = true) :
    t.hoisted.lookup name = s.hoisted.lookup name := by
  cases moves with
  | notes registry hoisted => rw [hoisted]
  | @gives given place fresh =>
      have apart : (name == given) = false := by
        rw [beq_eq_false_iff_ne]
        rintro rfl
        cases fresh.symm.trans held
      exact (List.lookup_cons).trans (by rw [apart])
  | begins | ends | abandons => rfl

/-- A name in progress that is given its type is held still. -/
theorem contains_ended (held : s.registry.contains name = true) :
    (Run.finished s other type).registry.contains name = true := by
  have building : (Run.finished s other type).registry.building =
      s.registry.building.filter (· != other) := Registry.building_leave
  have names : name ∈ (Run.finished s other type).registry.names ↔
      name = other ∨ name ∈ s.registry.names := Registry.mem_names_putEntry
  rw [Registry.contains_iff, ← Registry.mem_names_iff] at held ⊢
  rw [names, building, List.mem_filter]
  rcases held with registered | inside
  · exact .inl (.inr registered)
  · by_cases same : name = other
    · exact .inl (.inl same)
    · exact .inr ⟨inside, by simpa using same⟩

/-- What is registered stays registered. -/
theorem Moves.mem_names (moves : s.Moves t) (registered : name ∈ s.registry.names) :
    name ∈ t.registry.names := by
  cases moves with
  | notes registry => rwa [registry]
  | ends other type => exact Registry.mem_names_putEntry.2 (.inr registered)
  | gives | begins | abandons => exact registered

/-! ## Courses -/

/-- From the one session to the other, with the name registered or in progress all the
way. -/
def Course (name : String) (s t : Session) : Prop :=
  s.registry.contains name = true ∧
    Relation.ReflTransGen (fun s t => s.Moves t ∧ t.registry.contains name = true) s t

namespace Course

theorem refl (held : s.registry.contains name = true) : Course name s s := ⟨held, .refl⟩

theorem next (course : Course name s t) (moves : t.Moves u)
    (held : u.registry.contains name = true) : Course name s u :=
  ⟨course.1, course.2.tail ⟨moves, held⟩⟩

theorem held (course : Course name s t) : t.registry.contains name = true := by
  obtain ⟨start, steps⟩ := course
  cases steps with
  | refl => exact start
  | tail _ last => exact last.2

theorem trans (first : Course name s t) (second : Course name t u) : Course name s u :=
  ⟨first.1, first.2.trans second.2⟩

/-- The place that a name was given to last stays. -/
theorem lookup (course : Course name s t) :
    t.hoisted.lookup name = s.hoisted.lookup name := by
  obtain ⟨start, steps⟩ := course
  induction steps with
  | refl => rfl
  | tail before last ih => exact (last.1.lookup (held ⟨start, before⟩)).trans ih

theorem begun (course : Course name s t) (fresh : t.registry.contains other = false) :
    Course name s (Run.begun t other) :=
  course.next (.begins fresh) (Registry.contains_start course.held)

theorem finished (course : Course name s t) : Course name s (Run.finished t other type) :=
  course.next (.ends other type) (contains_ended course.held)

/-- Whatever moves follow, they are a course of every registered name. -/
theorem of_moves (registered : name ∈ s.registry.names)
    (moves : Relation.ReflTransGen Moves s t) : Course name s t := by
  have both : Course name s t ∧ name ∈ t.registry.names := by
    induction moves with
    | refl =>
        have held := Registry.contains_iff.2 (.inl (Registry.mem_names_iff.1 registered))
        exact ⟨.refl held, registered⟩
    | tail _ last ih =>
        have still := last.mem_names ih.2
        exact ⟨ih.1.next last (Registry.contains_iff.2 (.inl (Registry.mem_names_iff.1 still))), still⟩
  exact both.1

end Course

end Session

namespace Translation

variable {schemas : Node} {judgement : Judgement} {name : String}

/-- A translation that comes back is a course of every name that it found registered or in
progress. -/
theorem Derives.course (derived : Derives schemas judgement)
    (held : judgement.start.registry.contains name = true) :
    Session.Course name judgement.start judgement.finish := by
  refine derived.keeps inherited_true judgement.schemasHave_true (.refl held) ?_ ?_ ?_
  · intro s t course registry hoisted
    exact course.next (.notes registry hoisted) (registry ▸ course.held)
  · intro other schema s type t builds before inside
    exact (inside (before.begun builds.fresh)).finished
  · intro schema context other s fields text t _ hoists before inside
    have given := before.next (.gives schema.facts.node.place hoists.fresh) before.held
    exact (inside (given.begun hoists.fresh)).finished

end Translation

/-! ## Steps that fault -/

namespace Run

variable {α β : Type}

/-- Whatever comes of the step, it makes moves only. -/
def Roams (step : Run α) : Prop :=
  ∀ s, Relation.ReflTransGen Session.Moves s (step.outcome s).2

namespace Roams

theorem pure (a : α) : Roams (Pure.pure a) := fun _ => .refl

theorem throw {fault : Fault} : Roams (MonadExcept.throw fault : Run α) := fun _ => .refl

theorem lift {result : Except Fault α} : Roams (Run.lift result) := fun _ => .refl

theorem get : Roams (MonadState.get : Run Session) := fun _ => .refl

theorem registry : Roams Run.registry := fun _ => .refl

theorem changes {change : Session → Session} (moves : ∀ s, Session.Moves s (change s)) :
    Roams (modify change : Run PUnit) := fun s => .single (moves s)

theorem report {code : Diagnostic.Code} {args : List String} : Roams (Run.report code args) :=
  changes fun _ => .notes rfl rfl

theorem read {result : Except Fault α} {next : α → Run β}
    (rest : ∀ a, result = .ok a → Roams (next a)) : Roams (Run.lift result >>= next) := by
  intro s
  rw [outcome_bind]
  cases result with
  | ok a => exact rest a rfl s
  | error fault => exact .refl

theorem bind {step : Run α} {next : α → Run β} (first : Roams step)
    (second : ∀ a, Roams (next a)) : Roams (step >>= next) := by
  intro s
  have head := first s
  rw [outcome_bind]
  cases ended : step.outcome s with
  | mk result t =>
      rw [ended] at head
      cases result with
      | ok a => exact head.trans (second a t)
      | error fault => exact head

/-- What the step changes itself and what is done afterwards. -/
theorem afterwards {step : Run α} {change : Except Fault α → Session → Session}
    (first : Roams step) (last : ∀ result t, Session.Moves t (change result t)) :
    Roams (Run.afterwards step change) := by
  intro s
  have opened : (Run.afterwards step change).outcome s =
      ((step.outcome s).1, change (step.outcome s).1 (step.outcome s).2) := rfl
  rw [opened]
  exact (first s).tail (last _ _)

/-- The factory runs while its name is in progress. -/
theorem register {name : String} {factory : Run Ty} (inside : Roams factory) :
    Roams (Run.register name factory) := by
  intro s
  rw [outcome_register]
  cases entered : s.registry.enter name with
  | inl known => exact .refl
  | inr begun =>
      have fresh : s.registry.contains name = false := (Registry.enter_eq_inr_iff.1 entered).1
      have middle := inside (Run.begun s name)
      dsimp only
      cases ended : factory.outcome (Run.begun s name) with
      | mk result t =>
          rw [ended] at middle
          have begins := middle.head (.begins fresh)
          cases result with
          | ok type => exact begins.tail (.ends name type)
          | error fault => exact begins.tail (.abandons name)

/-- The name that a record is hoisted under is free. -/
theorem hoist {place : Option Place} {context : String} {record : String → Run Ty}
    (inside : ∀ name, Roams (record name)) : Roams (Translation.hoist place context record) := by
  intro s
  have fresh : s.registry.contains (s.registry.uniqueName context) = false :=
    Registry.uniqueName_spec.1
  have looked : (MonadState.get : Run Session).outcome s = (.ok s, s) := rfl
  have given : (modify fun s => { s with
        hoisted := (s.registry.uniqueName context, place) :: s.hoisted } : Run PUnit).outcome s =
      (.ok (), hoisting s (s.registry.uniqueName context) place) := rfl
  unfold Translation.hoist
  rw [outcome_bind, looked]
  dsimp only
  split
  · exact .refl
  · rw [outcome_bind]
    exact (bind (register (inside _)) (fun _ => pure _) _).head (.gives place fresh)

/-- A component that is built anew is noted meanwhile. -/
theorem mergeSource {ties : Ties} {type : Ty} (rebuild : ∀ name, Roams (ties.rebuild name)) :
    Roams (Translation.mergeSource ties type) := by
  refine bind registry fun r => ?_
  cases r.resolve (bareMember type) with
  | reference name =>
      refine bind get fun s => ?_
      split
      · exact pure _
      · refine bind lift fun held => ?_
        split
        · exact pure _
        · refine bind (changes fun _ => .notes rfl rfl) fun _ => ?_
          exact afterwards (rebuild name) fun _ _ => .notes rfl rfl
  | _ => exact pure _

end Roams

end Run

namespace Translation

variable {schemas : Node}

/-- Ties whose components are registered and built anew by moves satisfy the rules. -/
theorem rules_roams {ties : Ties} (component : ∀ name, Run.Roams (ties.component name))
    (rebuild : ∀ name, Run.Roams (ties.rebuild name)) :
    Rules ties.schemas (fun _ : Unit => ties) (fun _ _ => True) fun _ step => Run.Roams (step ()) where
  same := fun _ => rfl
  holds := fun _ => trivial
  atUse := fun _ _ => trivial
  pure := .pure
  bind := .bind
  read := fun _ => .read
  report := fun _ => .report
  component := fun _ => component _
  hoist := .hoist
  mergeSource := .mergeSource rebuild

/-- Whatever comes of registering a component or of building one anew, it makes moves. -/
theorem Ties.roams_within (bound : Nat) :
    (∀ name, Run.Roams ((Ties.within schemas bound).component name)) ∧
    ∀ name, Run.Roams ((Ties.within schemas bound).rebuild name) := by
  induction bound with
  | zero => exact ⟨fun _ => .throw, fun _ => .throw⟩
  | succ bound ih =>
      obtain ⟨component, rebuild⟩ := ih
      have builds : ∀ (name : String) (schema : Schema),
          Run.Roams (buildNamed (Ties.within schemas bound) name schema) :=
        fun name schema => (rules_roams component rebuild).buildNamed schema.read_true
      refine ⟨fun name => .bind .lift fun node => ?_, fun name => .bind .lift fun node => ?_⟩
      · exact .register (.bind .lift fun schema => builds name schema)
      · exact .bind .lift fun schema => builds name schema

end Translation

namespace Translator

variable {document : Node} {translator : Translator} {s t : Session}

/-- Whatever comes of a call on the translator of a document, it makes moves. -/
theorem roams_component (created : Run.Returns (create document) s translator t) (name : String) :
    Run.Roams (translator.component name) := by
  unfold component
  rw [(returns_create created).2.1]
  exact (Ties.roams_within _).1 name

theorem roams_translateNode (created : Run.Returns (create document) s translator t) (node : Node)
    (context : String) : Run.Roams (translator.translateNode node context) := by
  obtain ⟨component, rebuild⟩ :=
    @Ties.roams_within translator.schemas (componentBound translator.schemas)
  rw [← (returns_create created).2.1] at component rebuild
  exact .bind .lift fun schema =>
    (rules_roams component rebuild).translate schema.read_true context

/-- One call on a translator, whatever comes of it. -/
inductive Attempts (translator : Translator) (s : Session) : Session → Prop where
  | translateNode (node : Node) (context : String) :
      Attempts translator s ((translator.translateNode node context).outcome s).2
  | component (name : String) : Attempts translator s ((translator.component name).outcome s).2

/-- Calls on a translator are a course of every name that is registered before them. -/
theorem course_of_attempts {name : String} {u v : Session}
    (created : Run.Returns (create document) s translator t)
    (registered : name ∈ u.registry.names)
    (attempts : Relation.ReflTransGen translator.Attempts u v) : Session.Course name u v := by
  have moves : Relation.ReflTransGen Session.Moves u v := by
    induction attempts with
    | refl => exact .refl
    | tail _ attempt ih =>
        cases attempt with
        | translateNode node context => exact ih.trans (roams_translateNode created node context _)
        | component other => exact ih.trans (roams_component created other _)
  exact .of_moves registered moves

end Translator

end TypedContract
