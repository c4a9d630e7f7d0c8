/-
# TypedContract.Proofs.Registry.Rewinding -- coming back to a checkpoint

A checkpoint is a length only.  It says which entries to keep because no call moves, removes
or replaces an entry before it: a definition adds a name that has none, a factory that
returns stores under a name that had none when it began, and an inner rollback whose mark is
not below the checkpoint leaves the beginning alone.  So the entries of the checkpoint stay
a prefix of the entries, through factories that fail and through whatever they call
(`prefix_outcome`), and `rollback_restores` cuts the list down to them.
-/
import TypedContract.Proofs.Registry.Routine

namespace TypedContract.Registry

set_option autoImplicit false

open Program

variable {s : Session} {prior : List (String × Ty)}

/-! ## Entries -/

/-- An action leaves the beginning of the entries alone, unless it rolls back into it. -/
theorem Action.prefix_change {action : Action} {registry : Registry}
    (kept : prior <+: registry.entries)
    (above : ∀ mark, action = .rollback mark → (prior.length : Int) ≤ mark) :
    prior <+: (action.change registry).entries := by
  cases action with
  | define name type =>
      rw [change]
      split
      · exact kept
      · next unknown =>
          have new : name ∉ registry.names := by
            rw [← get?_eq_none_iff]
            simpa using unknown
          exact prefix_putEntry (fun member => new ((kept.map _).subset member)) kept
  | rollback mark => exact prefix_rollback kept (above mark rfl)
  | _ => exact kept

/-- The end of a factory leaves the beginning of the entries alone, if its name is none of
these. -/
theorem prefix_settle {name : String} {outcome : Except Fault Ty × Session}
    (new : name ∉ prior.map Prod.fst) (kept : prior <+: outcome.2.registry.entries) :
    prior <+: (Run.settle name outcome).registry.entries := by
  obtain ⟨result, t⟩ := outcome
  cases result with
  | ok type => exact prefix_putEntry new kept
  | error fault => exact kept

/-- A routine that rolls back to no earlier mark leaves the beginning of the entries alone. -/
theorem Routine.prefix_outcome (routine : Routine) (kept : prior <+: s.registry.entries)
    (above : ∀ mark, Event.acted (.rollback mark) ∈ routine.events s → (prior.length : Int) ≤ mark) :
    prior <+: (routine.run.outcome s).2.registry.entries := by
  induction routine generalizing s with
  | done result => cases result <;> exact kept
  | act action next ih =>
      obtain ⟨answer, t, returned, changed⟩ := action.exists_returns_perform s
      rw [outcome_act returned]
      rw [events_act returned] at above
      refine ih answer ?_ fun mark later => above mark (List.mem_cons_of_mem _ later)
      rw [changed]
      exact Action.prefix_change kept fun mark same => above mark (same ▸ List.mem_cons_self)
  | register name factory next ihFactory ihNext =>
      cases entered : s.registry.enter name with
      | inl known =>
          rw [outcome_known entered]
          rw [events_known entered] at above
          exact ihNext (.ok known) kept above
      | inr begun =>
          have fresh := (enter_eq_inr_iff.1 entered).1
          rw [outcome_begun fresh]
          rw [events_begun fresh] at above
          simp only [List.mem_cons, List.mem_append] at above
          -- a name that is built is none of the kept entries, so its own goes behind them
          have new : name ∉ prior.map Prod.fst := by
            intro member
            rw [contains_iff.2 (.inl (mem_names_iff.1 ((kept.map _).subset member)))] at fresh
            cases fresh
          have inside := ihFactory (s := Run.begun s name) kept
            fun mark within => above mark (.inr (.inl within))
          exact ihNext _ (prefix_settle new inside)
            fun mark later => above mark (.inr (.inr (.inr later)))

/-! ## Reserved names -/

/-- Events that reserve no name leave the reserved names as they are. -/
theorem reserved_after {events : List Event}
    (nothing : ∀ names, Event.acted (.reserve names) ∈ events → names = []) :
    (after events s).registry.reserved = s.registry.reserved := by
  induction events generalizing s with
  | nil => rfl
  | cons event events ih =>
      rw [after_cons, ih fun names later => nothing names (List.mem_cons_of_mem _ later)]
      cases event with
      | acted action =>
          rw [Event.on, Action.registry_on]
          cases action with
          | define name type =>
              rw [Action.change]
              split <;> rfl
          | reserve names =>
              obtain rfl := nothing names List.mem_cons_self
              exact List.append_nil _
          | _ => rfl
      | _ => rfl

/-! ## Back at the checkpoint -/

/-- Takes a checkpoint, runs a routine, which may fail, and rolls back. -/
def Routine.rewound (routine : Routine) : Run Unit := do
  let mark := (← Run.registry).checkpoint
  let _ ← Run.attempt routine.run
  Run.rollback mark

theorem uniqueName_congr {registry other : Registry} (entries : registry.entries = other.entries)
    (building : registry.building = other.building) (reserved : registry.reserved = other.reserved)
    (base : String) : registry.uniqueName base = other.uniqueName base := by
  obtain ⟨_, _, _⟩ := registry
  obtain ⟨_, _, _⟩ := other
  cases entries
  cases building
  cases reserved
  rfl

/-- After a routine that rolls back to no earlier mark, rolling back to the checkpoint
leaves exactly its entries, and new names are given as then if no name was reserved. -/
theorem rollback_restores (routine : Routine) (s : Session)
    (above : ∀ mark, Event.acted (.rollback mark) ∈ routine.events s →
      (s.registry.checkpoint : Int) ≤ mark) :
    ∃ t, Run.Returns routine.rewound s () t ∧ t.registry.entries = s.registry.entries ∧
      ((∀ names, Event.acted (.reserve names) ∈ routine.events s → names = []) →
        ∀ base, t.registry.uniqueName base = s.registry.uniqueName base) := by
  have kept := routine.prefix_outcome (s := s) List.prefix_rfl above
  let reached := (routine.run.outcome s).2
  obtain ⟨log, rolled⟩ := Run.exists_rollback s.registry.checkpoint reached
  have entries : (reached.registry.rollback s.registry.checkpoint).entries = s.registry.entries :=
    entries_rollback_of_prefix kept
  refine ⟨{ reached with registry := reached.registry.rollback s.registry.checkpoint, log := log }, ?_,
    entries, fun nothing => ?_⟩
  · unfold Routine.rewound
    simp only [Run.returns_bind, Run.returns_registry]
    exact ⟨_, s, ⟨rfl, rfl⟩, _, reached, Run.outcome_attempt _ s, rolled⟩
  · have reserved : reached.registry.reserved = s.registry.reserved := by
      rw [show reached = _ from routine.outcome_events s, reserved_after nothing]
    exact uniqueName_congr entries (routine.building_outcome s) reserved

/-- The factory of `Order` registers `Item`, fails to register `Line` and fails; then names are
defined, and the last of them is dropped again. -/
def abandonedOrder : Routine :=
  .register "Order"
    (.register "Item" (.done (.ok .nil)) fun _ =>
      .register "Line" (.act (.define "Tag" .nil) fun _ => .done (.error (.scripted "boom"))) .done)
    fun _ => .act (.define "Item" (.array .nil)) fun _ =>
      .act (.uniqueName "Item") fun _ => .act .checkpoint fun mark =>
        .act (.define "Owner" (.reference "Item")) fun _ =>
          .act (.rollback (match mark with | .number mark => mark | _ => 0)) fun _ => .done (.ok .nil)

/-- A session that knows one type. -/
def knowing (name : String) : Session := { registry := { entries := [(name, .nil)] } }

theorem events_abandonedOrder :
    abandonedOrder.events (knowing "Item_2") =
      [.begun "Order", .begun "Item", .finished "Item" .nil, .begun "Line",
        .acted (.define "Tag" .nil), .abandoned "Line", .abandoned "Order",
        .acted (.define "Item" (.array .nil)), .acted (.uniqueName "Item"), .acted .checkpoint,
        .acted (.define "Owner" (.reference "Item")), .acted (.rollback 3)] := rfl

theorem rollback_restores_abandonedOrder :
    (∀ mark, Event.acted (.rollback mark) ∈ abandonedOrder.events (knowing "Item_2") →
      ((knowing "Item_2").registry.checkpoint : Int) ≤ mark) ∧
    ∃ t, Run.Returns abandonedOrder.rewound (knowing "Item_2") () t ∧
      t.registry.entries = [("Item_2", .nil)] ∧ t.registry.uniqueName "Item_2" = "Item_2_2" := by
  have above (mark : Int)
      (rolled : Event.acted (.rollback mark) ∈ abandonedOrder.events (knowing "Item_2")) :
      ((knowing "Item_2").registry.checkpoint : Int) ≤ mark := by
    rw [events_abandonedOrder] at rolled
    simp at rolled
    subst rolled
    decide
  obtain ⟨t, returned, entries, named⟩ := rollback_restores abandonedOrder (knowing "Item_2") above
  refine ⟨above, t, returned, entries, ?_⟩
  rw [named (fun names reserved => by simp [events_abandonedOrder] at reserved)]
  rfl

end TypedContract.Registry
