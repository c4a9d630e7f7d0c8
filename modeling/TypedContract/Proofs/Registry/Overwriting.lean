/-
# TypedContract.Proofs.Registry.Overwriting -- when a registered type is replaced

A definition keeps the type that its name has.  A registration asks for the name before it
runs the factory and stores the factory's type without asking again, so the one event that
replaces a type is the return of a factory under whose name something was defined while it
ran (`Event.get?_on`).

The calls of factories nest: between the beginning and the return of a factory its name is
in progress, so no other factory of the name begins or returns (`not_mem_events_of_building`,
`exists_factory`).  What its name stands for when it returns is therefore what was first
defined under it meanwhile (`get?_after_eq_definition?`), and `keepsTypes_iff` says which
routines never replace a type by looking at their calls alone.
-/
import Mathlib.Data.List.Induction
import TypedContract.Proofs.Registry.Routine

namespace TypedContract.Registry

set_option autoImplicit false

open Program

variable {name : String} {type : Ty} {s : Session}

/-! ## One event -/

theorem get?_store_self {registry : Registry} :
    (registry.store name type).get? name = some type := lookup_putEntry_self

theorem get?_store_of_ne {registry : Registry} {other : String} (apart : other ≠ name) :
    (registry.store name type).get? other = registry.get? other := lookup_putEntry_of_ne apart

/-- What an event defines under a name. -/
def Event.definition? (name : String) : Event → Option Ty
  | .acted (.define other type) => if other = name then some type else none
  | _ => none

/-- What is first defined under a name. -/
def definition? (name : String) (events : List Event) : Option Ty :=
  events.findSome? (Event.definition? name)

namespace Event

variable {event : Event}

/-- A name that has a type keeps it, unless its factory returns. -/
theorem get?_on (forward : ∀ mark, event ≠ .acted (.rollback mark))
    (other : ∀ built, event ≠ .finished name built)
    (stored : s.registry.get? name = some type) :
    (event.on s).registry.get? name = some type := by
  cases event with
  | begun key => exact stored
  | abandoned key => exact stored
  | finished key built =>
      have apart : name ≠ key := fun same => other built (same ▸ rfl)
      exact (get?_store_of_ne apart).trans stored
  | acted action =>
      rw [on, Action.registry_on]
      cases action with
      | define key given =>
          by_cases known : (s.registry.get? key).isSome = true
          · rw [Action.change, if_pos known]
            exact stored
          · have apart : name ≠ key := by
              rintro rfl
              rw [stored] at known
              exact known rfl
            rw [Action.change, if_neg known, get?_store_of_ne apart]
            exact stored
      | rollback mark => exact absurd rfl (forward mark)
      | _ => exact stored

/-- The return of a factory gives its name the type that it built. -/
theorem get?_finished : ((finished name type).on s).registry.get? name = some type :=
  get?_store_self

/-- A name without a type gets the one that an event defines, unless its factory returns. -/
theorem get?_on_of_none (forward : ∀ mark, event ≠ .acted (.rollback mark))
    (other : ∀ built, event ≠ .finished name built) (free : s.registry.get? name = none) :
    (event.on s).registry.get? name = event.definition? name := by
  cases event with
  | begun key => exact free
  | abandoned key => exact free
  | finished key built =>
      have apart : name ≠ key := fun same => other built (same ▸ rfl)
      exact (get?_store_of_ne apart).trans free
  | acted action =>
      rw [on, Action.registry_on]
      cases action with
      | define key given =>
          by_cases own : key = name
          · subst own
            rw [Action.change, free, definition?, if_pos rfl]
            exact get?_store_self
          · rw [definition?, if_neg own, Action.change]
            split
            · exact free
            · exact (get?_store_of_ne (Ne.symm own)).trans free
      | rollback mark => exact absurd rfl (forward mark)
      | _ => exact free

end Event

/-! ## The events between the beginning and the return of a factory -/

section

variable {events : List Event} (forward : ∀ mark, Event.acted (.rollback mark) ∉ events)
  (other : ∀ built, Event.finished name built ∉ events)

include forward other

theorem get?_after (stored : s.registry.get? name = some type) :
    (after events s).registry.get? name = some type := by
  induction events generalizing s with
  | nil => exact stored
  | cons event events ih =>
      simp only [List.mem_cons, not_or] at forward other
      exact ih (fun mark => (forward mark).2) (fun built => (other built).2)
        (Event.get?_on (fun mark => (forward mark).1 ∘ Eq.symm)
          (fun built => (other built).1 ∘ Eq.symm) stored)

/-- A name without a type has in the end what was first defined under it. -/
theorem get?_after_eq_definition? (free : s.registry.get? name = none) :
    (after events s).registry.get? name = definition? name events := by
  induction events generalizing s with
  | nil => exact free
  | cons event events ih =>
      rw [after_cons, definition?, List.findSome?_cons]
      simp only [List.mem_cons, not_or] at forward other
      have first := Event.get?_on_of_none (fun mark => (forward mark).1 ∘ Eq.symm)
        (fun built => (other built).1 ∘ Eq.symm) free
      cases given : event.definition? name with
      | none =>
          exact ih (fun mark => (forward mark).2) (fun built => (other built).2) (first.trans given)
      | some type =>
          exact get?_after (fun mark => (forward mark).2) (fun built => (other built).2)
            (first.trans given)

end

namespace Routine

variable {routine : Routine}

/-- While a name is in progress no factory of the name begins or returns. -/
theorem not_mem_events_of_building (routine : Routine) {s : Session}
    (running : name ∈ s.registry.building) :
    Event.begun name ∉ routine.events s ∧ ∀ built, Event.finished name built ∉ routine.events s := by
  induction routine generalizing s with
  | done result => exact ⟨List.not_mem_nil, fun _ => List.not_mem_nil⟩
  | act action next ih =>
      obtain ⟨answer, t, returned, changed⟩ := action.exists_returns_perform s
      have still : name ∈ t.registry.building := by
        rw [changed, building_change]
        exact running
      rw [events_act returned]
      simpa only [List.mem_cons, reduceCtorEq, false_or] using ih answer still
  | register key factory next ihFactory ihNext =>
      cases entered : s.registry.enter key with
      | inl known =>
          rw [events_known entered]
          exact ihNext (.ok known) running
      | inr begun =>
          have fresh := (enter_eq_inr_iff.1 entered).1
          have apart : name ≠ key := fun same => not_mem_building fresh (same ▸ running)
          have inside := ihFactory (s := Run.begun s key) (List.mem_cons_of_mem _ running)
          -- the name is still in progress when the factory has ended
          have outside := ihNext (factory.run.outcome (Run.begun s key)).1
            (s := Run.settle key (factory.run.outcome (Run.begun s key))) (by
              rw [building_settle, building_outcome]
              exact List.mem_filter.2 ⟨List.mem_cons_of_mem _ running, bne_iff_ne.2 apart⟩)
          rw [events_begun fresh]
          simp only [List.mem_cons, List.mem_append, not_or, Event.begun.injEq, reduceCtorEq,
            not_false_eq_true, true_and]
          refine ⟨⟨apart, inside.1, Event.begun_ne_ended, outside.1⟩, fun built => ?_⟩
          refine ⟨inside.2 built, fun same => ?_, outside.2 built⟩
          exact apart (Event.finished_eq_ended_iff.1 same).1

/-- An element of a list with a middle stands before the middle, in it or behind it. -/
theorem split_cases {α : Type} {first second before rest : List α} {x y : α}
    (same : first ++ x :: second = before ++ y :: rest) :
    (∃ more, first = before ++ y :: more) ∨ (first = before ∧ x = y) ∨
      ∃ more, before = first ++ x :: more ∧ second = more ++ y :: rest := by
  rcases List.append_eq_append_iff.1 same with ⟨more, rfl, behind⟩ | ⟨more, rfl, inside⟩
  · rcases List.cons_eq_append_iff.1 behind with ⟨rfl, here⟩ | ⟨later, rfl, rfl⟩
    · exact .inr (.inl ⟨(List.append_nil _).symm, (List.cons.inj here).1.symm⟩)
    · exact .inr (.inr ⟨later, rfl, rfl⟩)
  · rcases List.cons_eq_append_iff.1 inside with ⟨rfl, here⟩ | ⟨later, rfl, -⟩
    · exact .inr (.inl ⟨List.append_nil _, (List.cons.inj here).1⟩)
    · exact .inl ⟨later, rfl⟩

/-- The last place of an element splits a list in one way. -/
theorem split_at_last {α : Type} {first second before rest : List α} {x : α}
    (same : first ++ x :: second = before ++ x :: rest) (last : x ∉ second) (other : x ∉ rest) :
    first = before ∧ second = rest := by
  rcases split_cases same with ⟨more, rfl⟩ | ⟨rfl, -⟩ | ⟨more, rfl, rfl⟩
  · rw [List.append_assoc] at same
    have behind := (List.cons.inj (List.append_cancel_left same)).2
    exact absurd (behind ▸ List.mem_append_right more List.mem_cons_self) other
  · exact ⟨rfl, (List.cons.inj (List.append_cancel_left same)).2⟩
  · exact absurd (List.mem_append_right more List.mem_cons_self) last

/-- A factory that returns has begun under a name without a type, and no other factory of
the name has begun or returned since. -/
theorem exists_factory {before rest : List Event}
    (ran : routine.events s = before ++ .finished name type :: rest) :
    ∃ opened inside, before = opened ++ .begun name :: inside ∧
      (after opened s).registry.get? name = none ∧ Event.begun name ∉ inside ∧
      ∀ built, Event.finished name built ∉ inside := by
  induction routine generalizing s before rest with
  | done result => simp [events] at ran
  | act action next ih =>
      obtain ⟨answer, t, returned, -⟩ := action.exists_returns_perform s
      rw [events_act returned] at ran
      rcases List.cons_eq_append_iff.1 ran with ⟨-, here⟩ | ⟨before, rfl, later⟩
      · simp at here
      · obtain ⟨opened, inside, rfl, free, apart⟩ := ih answer later
        have acted : action.on s = t := by
          rw [Action.on, show action.perform.outcome s = _ from returned]
        exact ⟨.acted action :: opened, inside, rfl, by rwa [after_cons, Event.on, acted], apart⟩
  | register key factory next ihFactory ihNext =>
      cases entered : s.registry.enter key with
      | inl known => exact ihNext (.ok known) (events_known entered ▸ ran)
      | inr begun =>
          have fresh := (enter_eq_inr_iff.1 entered).1
          rw [events_begun fresh] at ran
          rcases List.cons_eq_append_iff.1 ran with ⟨-, here⟩ | ⟨before, rfl, later⟩
          · simp at here
          -- the return is one inside this factory, its own, or one of what comes after it
          rcases split_cases later with ⟨more, within⟩ | ⟨rfl, own⟩ | ⟨more, rfl, behind⟩
          · obtain ⟨opened, inside, rfl, free, apart⟩ := ihFactory within
            exact ⟨.begun key :: opened, inside, rfl, free, apart⟩
          · obtain ⟨rfl, -⟩ := Event.finished_eq_ended_iff.1 own.symm
            have running : name ∈ (Run.begun s name).registry.building := List.mem_cons_self
            have unregistered : s.registry.get? name = none := by
              cases found : s.registry.get? name with
              | none => rfl
              | some known =>
                  rw [contains_iff.2 (.inl ⟨known, found⟩)] at fresh
                  cases fresh
            exact ⟨[], _, rfl, unregistered, not_mem_events_of_building factory running⟩
          · obtain ⟨opened, inside, rfl, free, apart⟩ := ihNext _ behind
            refine ⟨.begun key :: (factory.events (Run.begun s key) ++
              Event.ended key (factory.run.outcome (Run.begun s key)).1 :: opened), inside,
              by simp, ?_, apart⟩
            have inside : after (factory.events (Run.begun s key)) ((Event.begun key).on s) =
                (factory.run.outcome (Run.begun s key)).2 := (outcome_events factory _).symm
            rw [after_cons, after_append, after_cons, inside, Event.on_ended]
            exact free

/-! ## Replacing a type -/

/-- A type that a name has at some moment of a run it has at all later ones. -/
def KeepsTypes (routine : Routine) (s : Session) : Prop :=
  ∀ earlier later, earlier <+: later → later <+: routine.events s → ∀ name type,
    (after earlier s).registry.get? name = some type →
      (after later s).registry.get? name = some type

/-- In a run a factory of the name did the events `inside` and then returned the type. -/
def Returned (routine : Routine) (s : Session) (name : String) (inside : List Event) (type : Ty) :
    Prop :=
  ∃ opened rest, routine.events s = opened ++ .begun name :: (inside ++ .finished name type :: rest) ∧
    Event.begun name ∉ inside

section

variable (forward : ∀ mark, Event.acted (.rollback mark) ∉ routine.events s)

include forward

/-- What a name stands for when its factory returns. -/
theorem get?_inside {opened inside rest : List Event}
    (ran : routine.events s = opened ++ .begun name :: (inside ++ .finished name type :: rest))
    (last : Event.begun name ∉ inside) :
    (after (opened ++ .begun name :: inside) s).registry.get? name = definition? name inside := by
  have split : routine.events s = (opened ++ .begun name :: inside) ++ .finished name type :: rest := by
    rw [ran, List.append_assoc, List.cons_append]
  obtain ⟨start, body, same, free, own, other⟩ := exists_factory split
  obtain ⟨rfl, rfl⟩ := split_at_last same last own
  have onward (mark : Int) : Event.acted (.rollback mark) ∉ inside := by
    intro rolled
    apply forward mark
    rw [split]
    exact List.mem_append_left _ (List.mem_append_right _ (List.mem_cons_of_mem _ rolled))
  rw [after_append, after_cons]
  exact get?_after_eq_definition? onward other free

/-- The run of a routine replaces no type exactly when every factory under whose own name
something is defined while it runs returns the type that was defined first. -/
theorem keepsTypes_iff :
    routine.KeepsTypes s ↔ ∀ name inside type, routine.Returned s name inside type →
      ∀ first, definition? name inside = some first → first = type := by
  constructor
  · rintro keeps name inside type ⟨opened, rest, ran, last⟩ first given
    have before := get?_inside forward ran last
    have kept := keeps (opened ++ .begun name :: inside)
      ((opened ++ .begun name :: inside) ++ [.finished name type]) (List.prefix_append _ _)
      ⟨rest, by rw [ran]; simp⟩ name first (before.trans given)
    rw [after_concat, Event.get?_finished] at kept
    exact (Option.some.inj kept).symm
  · intro agree earlier later reached within name type
    obtain ⟨more, rfl⟩ := reached
    -- Event by event: the return of the name's own factory is the one case to look at.
    induction more using List.reverseRecOn with
    | nil => simp
    | append_singleton more event ih =>
        intro stored
        rw [← List.append_assoc] at within ⊢
        have before := ih ((List.prefix_append _ _).trans within) stored
        obtain ⟨rest, split⟩ := within
        rw [after_concat]
        by_cases own : ∃ built, event = .finished name built
        · obtain ⟨built, rfl⟩ := own
          rw [List.append_assoc, List.singleton_append] at split
          obtain ⟨opened, inside, same, -, last, -⟩ := exists_factory split.symm
          rw [same, List.append_assoc, List.cons_append] at split
          have first := get?_inside forward split.symm last
          rw [← same, before] at first
          have returned : routine.Returned s name inside built := ⟨opened, rest, split.symm, last⟩
          rw [Event.get?_finished, agree name inside built returned type first.symm]
        · refine Event.get?_on (fun mark rolled => forward mark ?_)
            (fun built => own ∘ (⟨built, ·⟩)) before
          rw [← split, ← rolled]
          simp

end

/-- While the factory of `Pet` runs, that of `Tag` defines `Pet` as a string.  The factory of
`Pet` returns a type of the kind `built`. -/
def crossing (built : Scalar) : Routine :=
  .register "Pet"
    (.register "Tag" (.act (.define "Pet" (.primitive (.of .string .null))) fun _ => .done (.ok .nil))
      fun _ => .done (.ok (.primitive (.of built .null))))
    .done

theorem events_crossing (built : Scalar) :
    (crossing built).events {} =
      [.begun "Pet", .begun "Tag", .acted (.define "Pet" (.primitive (.of .string .null))),
        .finished "Tag" .nil, .finished "Pet" (.primitive (.of built .null))] := rfl

/-- The factory of `Pet` returns what was defined meanwhile. -/
theorem keepsTypes_iff_crossing :
    (∀ mark, Event.acted (.rollback mark) ∉ (crossing .string).events {}) ∧
      (crossing .string).KeepsTypes {} := by
  have forward (mark : Int) : Event.acted (.rollback mark) ∉ (crossing .string).events {} := by
    simp [events_crossing]
  refine ⟨forward, (keepsTypes_iff forward).2 ?_⟩
  rintro name inside type ⟨opened, rest, ran, -⟩ first given
  obtain ⟨event, within, defined⟩ := List.exists_of_findSome?_eq_some given
  have done : event ∈ (crossing .string).events {} := by simp [ran, within]
  have ended : Event.finished name type ∈ (crossing .string).events {} := by simp [ran]
  rw [events_crossing] at done ended
  simp only [List.mem_cons, List.not_mem_nil, or_false, reduceCtorEq, false_or, Event.finished.injEq]
    at done ended
  rcases done with rfl | rfl | rfl | rfl | rfl <;> simp [Event.definition?] at defined
  obtain ⟨rfl, rfl⟩ := defined
  rcases ended with ⟨same, -⟩ | ⟨-, rfl⟩
  · exact absurd same (by decide)
  · rfl

/-- The factory of `Pet` returns an integer type, and `Pet` is a string no longer. -/
theorem not_keepsTypes_crossing :
    (∀ mark, Event.acted (.rollback mark) ∉ (crossing .int64).events {}) ∧
      ¬ (crossing .int64).KeepsTypes {} := by
  refine ⟨by simp [events_crossing], fun keeps => ?_⟩
  have kept := keeps
    [.begun "Pet", .begun "Tag", .acted (.define "Pet" (.primitive (.of .string .null)))]
    ((crossing .int64).events {}) ⟨[_, _], rfl⟩ List.prefix_rfl
    "Pet" (.primitive (.of .string .null)) rfl
  cases kept

end Routine

end TypedContract.Registry
