/-
# TypedContract.Proofs.Registry.Routine -- programs of calls on the registry

A `Routine` is a program that may make every call on the registry.  Each call may depend on
the answers to the calls before it, and a factory may call anything on any name, its own and
those of its callers included, and may fail.

`Program.events` lists what the run of a routine does to the session, in order: a factory
begins, returns or fails, an action is performed.  The session in which the run ends is what
these events make of the one in which it began (`outcome_events`), so the moments of a run
are the beginnings of its list of events, and a statement about all of them is proved event
by event.
-/
import TypedContract.Proofs.Registry.Nested
import TypedContract.Registry.Program

namespace TypedContract.Registry

set_option autoImplicit false

/-! ## Actions -/

/-- A call that runs no factory. -/
inductive Action where
  | define (name : String) (type : Ty)
  | reserve (names : List String)
  | rollback (mark : Int)
  | uniqueName (base : String)
  | checkpoint
  | get (name : String)
  | contains (name : String)
  | inProgress (name : String)
  | resolve (type : Ty)
  | dangling

namespace Action

/-- Performs an action. -/
def perform : Action → Run Result
  | .define name type => do return .type (some (← Run.define name type))
  | .reserve names => do
      Run.onRegistry (·.reserve names)
      return .nothing
  | .rollback mark => do
      Run.rollback mark
      return .nothing
  | .uniqueName base => do return .name ((← Run.registry).uniqueName base)
  | .checkpoint => do return .number (← Run.registry).checkpoint
  | .get name => do return .type ((← Run.registry).get? name)
  | .contains name => do return .flag ((← Run.registry).contains name)
  | .inProgress name => do return .flag ((← Run.registry).inProgress name)
  | .resolve type => do return .type (some ((← Run.registry).resolve type))
  | .dangling => do return .names (← Run.registry).dangling

/-- The session after an action. -/
def on (action : Action) (s : Session) : Session := (action.perform.outcome s).2

/-- The registry after an action.  A name that is registered is not defined anew. -/
def change : Action → Registry → Registry
  | .define name type, registry =>
      if (registry.get? name).isSome then registry else registry.store name type
  | .reserve names, registry => registry.reserve names
  | .rollback mark, registry => registry.rollback mark
  | _, registry => registry

/-- A definition answers with the type that the name has from then on. -/
theorem exists_returns_define (name : String) (type : Ty) (s : Session) :
    ∃ t, Run.Returns (Run.define name type) s ((s.registry.get? name).getD type) t ∧
      t.registry = (Action.define name type).change s.registry := by
  unfold Run.define
  simp only [Run.returns_bind, Run.returns_registry]
  cases found : s.registry.get? name with
  | none =>
      refine ⟨{ s with registry := s.registry.store name type }, ⟨_, s, ⟨rfl, rfl⟩, ?_⟩, ?_⟩
      · rw [found]
        exact Run.returns_bind.2 ⟨(), _, Run.returns_onRegistry.2 rfl, Run.returns_pure.2 ⟨rfl, rfl⟩⟩
      · rw [change, found]
        rfl
  | some existing =>
      have unchanged : (Action.define name type).change s.registry = s.registry := by
        rw [change, found]
        rfl
      let reported : Session :=
        { s with diagnostics := s.diagnostics ++ [⟨.typeNameConflict, [name], none⟩] }
      let t : Session := if existing.same type then s else reported
      have registry : t.registry = s.registry := by
        unfold t
        split <;> rfl
      refine ⟨t, ⟨_, s, ⟨rfl, rfl⟩, ?_⟩, registry.trans unchanged.symm⟩
      rw [found]
      unfold t
      dsimp only
      cases existing.same type with
      | true => exact Run.returns_pure.2 ⟨rfl, rfl⟩
      | false =>
          exact Run.returns_bind.2 ⟨⟨⟩, reported, Run.returns_report.2 rfl,
            Run.returns_pure.2 ⟨rfl, rfl⟩⟩

/-- An action never fails. -/
theorem exists_returns_perform (action : Action) (s : Session) :
    ∃ answer t, Run.Returns action.perform s answer t ∧ t.registry = action.change s.registry := by
  cases action with
  | define name type =>
      obtain ⟨t, returned, changed⟩ := exists_returns_define name type s
      exact ⟨_, t, Run.returns_bind.2 ⟨_, t, returned, Run.returns_pure.2 ⟨rfl, rfl⟩⟩, changed⟩
  | reserve names =>
      exact ⟨_, _, Run.returns_bind.2 ⟨(), _, Run.returns_onRegistry.2 rfl,
        Run.returns_pure.2 ⟨rfl, rfl⟩⟩, rfl⟩
  | rollback mark =>
      obtain ⟨log, rolled⟩ := Run.exists_rollback mark s
      exact ⟨_, _, Run.returns_bind.2 ⟨(), _, rolled, Run.returns_pure.2 ⟨rfl, rfl⟩⟩, rfl⟩
  | _ =>
      exact ⟨_, s, Run.returns_bind.2 ⟨_, s, Run.returns_registry.2 ⟨rfl, rfl⟩,
        Run.returns_pure.2 ⟨rfl, rfl⟩⟩, rfl⟩

theorem registry_on (action : Action) (s : Session) :
    (action.on s).registry = action.change s.registry := by
  obtain ⟨answer, t, returned, changed⟩ := exists_returns_perform action s
  rw [on, show action.perform.outcome s = _ from returned, changed]

end Action

/-! ## Routines -/

/-- All calls on the registry. -/
abbrev Vocabulary.full : Vocabulary := ⟨Registry.Action, Result, Registry.Action.perform⟩

/-- A program of any calls on the registry. -/
abbrev Routine : Type := Program .full

/-! ## Events -/

/-- What a routine does to the session. -/
inductive Event where
  /-- The factory of a name begins. -/
  | begun (name : String)
  /-- The factory of a name returns a type. -/
  | finished (name : String) (type : Ty)
  /-- The factory of a name fails. -/
  | abandoned (name : String)
  | acted (action : Action)

namespace Event

/-- The session after an event. -/
def on : Event → Session → Session
  | .begun name, s => Run.begun s name
  | .finished name type, s => Run.finished s name type
  | .abandoned name, s => Run.abandoned s name
  | .acted action, s => action.on s

/-- The end of a factory. -/
def ended (name : String) : Except Fault Ty → Event
  | .ok type => .finished name type
  | .error _ => .abandoned name

theorem begun_ne_ended {name other : String} {result : Except Fault Ty} :
    Event.begun name ≠ ended other result := by
  cases result <;> nofun

theorem finished_eq_ended_iff {name other : String} {type : Ty} {result : Except Fault Ty} :
    Event.finished name type = ended other result ↔ name = other ∧ result = .ok type := by
  cases result <;> simp [ended, eq_comm]

theorem on_ended {name : String} (outcome : Except Fault Ty × Session) :
    (ended name outcome.1).on outcome.2 = Run.settle name outcome := by
  obtain ⟨result, t⟩ := outcome
  cases result <;> rfl

end Event

/-- The session after some events, one after the other. -/
def after (events : List Event) (s : Session) : Session :=
  events.foldl (fun s event => event.on s) s

theorem after_cons {event : Event} {events : List Event} {s : Session} :
    after (event :: events) s = after events (event.on s) := rfl

theorem after_append {events more : List Event} {s : Session} :
    after (events ++ more) s = after more (after events s) := List.foldl_append

theorem after_concat {events : List Event} {event : Event} {s : Session} :
    after (events ++ [event]) s = event.on (after events s) := after_append

namespace Program

/-- What a routine does to a session, in order. -/
def events : Routine → Session → List Event
  | .done _, _ => []
  | .act action next, s =>
      .acted action :: match (action.perform.outcome s).1 with
        | .ok answer => (next answer).events (action.on s)
        | .error _ => []
  | .register name factory next, s =>
      match s.registry.enter name with
      | .inl known => (next (.ok known)).events s
      | .inr _ =>
          let outcome := factory.run.outcome (Run.begun s name)
          .begun name :: (factory.events (Run.begun s name) ++
            Event.ended name outcome.1 :: (next outcome.1).events (Run.settle name outcome))

variable {name : String} {action : Action} {after : Result → Routine} {factory : Routine}
  {next : Except Fault Ty → Routine} {s : Session}

theorem events_act {answer : Result} {t : Session}
    (returned : Run.Returns action.perform s answer t) :
    (Program.act action after : Routine).events s = .acted action :: (after answer).events t := by
  rw [events, Action.on, show action.perform.outcome s = _ from returned]

theorem events_known {known : Ty} (found : s.registry.enter name = .inl known) :
    (Program.register name factory next : Routine).events s = (next (.ok known)).events s := by
  rw [events, found]

theorem events_begun (fresh : s.registry.contains name = false) :
    (Program.register name factory next : Routine).events s =
      .begun name :: (factory.events (Run.begun s name) ++
        Event.ended name (factory.run.outcome (Run.begun s name)).1 ::
          (next (factory.run.outcome (Run.begun s name)).1).events
            (Run.settle name (factory.run.outcome (Run.begun s name)))) := by
  rw [events, enter_eq_inr_iff.2 ⟨fresh, rfl⟩]

/-- The session in which a routine ends is what its events make of the one before. -/
theorem outcome_events (routine : Routine) (s : Session) :
    (routine.run.outcome s).2 = Registry.after (routine.events s) s := by
  induction routine generalizing s with
  | done result => cases result <;> rfl
  | act action next ih =>
      obtain ⟨answer, t, returned, -⟩ := action.exists_returns_perform s
      have acted : action.on s = t := by rw [Action.on, show action.perform.outcome s = _ from returned]
      rw [outcome_act returned, events_act returned, after_cons, ih, Event.on, acted]
  | register name factory next ihFactory ihNext =>
      cases entered : s.registry.enter name with
      | inl known => rw [outcome_known entered, events_known entered, ihNext]
      | inr begun =>
          have fresh := (enter_eq_inr_iff.1 entered).1
          rw [outcome_begun fresh, events_begun fresh, after_cons, after_append, after_cons, ihNext]
          have inside : Registry.after (factory.events (Run.begun s name)) ((Event.begun name).on s) =
              (factory.run.outcome (Run.begun s name)).2 := (ihFactory _).symm
          rw [inside, Event.on_ended]

/-! ## Names in progress -/

/-- The end of a factory takes its name from the names in progress. -/
theorem building_settle {outcome : Except Fault Ty × Session} :
    (Run.settle name outcome).registry.building =
      outcome.2.registry.building.filter (· != name) := by
  obtain ⟨result, t⟩ := outcome
  cases result <;> exact building_leave

theorem building_change (registry : Registry) :
    (action.change registry).building = registry.building := by
  cases action with
  | define name type =>
      rw [Action.change]
      split <;> rfl
  | _ => rfl

/-- A name whose factory begins was not in progress. -/
theorem not_mem_building (fresh : s.registry.contains name = false) :
    name ∉ s.registry.building := by
  intro member
  rw [contains_iff.2 (.inr member)] at fresh
  cases fresh

/-- A routine ends with the names in progress with which it began. -/
theorem building_outcome (routine : Routine) (s : Session) :
    (routine.run.outcome s).2.registry.building = s.registry.building := by
  induction routine generalizing s with
  | done result => cases result <;> rfl
  | act action next ih =>
      obtain ⟨answer, t, returned, changed⟩ := action.exists_returns_perform s
      rw [outcome_act returned, ih, changed, building_change]
  | register name factory next ihFactory ihNext =>
      cases entered : s.registry.enter name with
      | inl known => rw [outcome_known entered, ihNext]
      | inr begun =>
          have fresh := (enter_eq_inr_iff.1 entered).1
          rw [outcome_begun fresh, ihNext, building_settle, ihFactory]
          exact filter_cons_ne (not_mem_building fresh)

end Program

end TypedContract.Registry
