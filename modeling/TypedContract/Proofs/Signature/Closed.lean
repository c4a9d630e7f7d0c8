/-
# TypedContract.Proofs.Signature.Closed -- signatures refer to registered types

A signature carries the types of its parameters and its return type
(`carries_build`), since what finds the parameters and what follows on them carry types.
An operation that is given up drops the types that were registered for it: the entries at
its start are a prefix of those at the end, so the rollback restores exactly them
(`Session.Grows.entries_rollback`).
-/
import TypedContract.Proofs.Carrying

namespace TypedContract

set_option autoImplicit false

/-! ## Rolling back -/

namespace Session.Grows

variable {s t : Session}

/-- Rolling back to an earlier session brings back its entries. -/
theorem entries_rollback (grows : s.Grows t) :
    (t.registry.rollback s.registry.checkpoint).entries = s.registry.entries :=
  Registry.entries_rollback_of_prefix grows.entries

/-- Rolling back to an earlier session brings back its registry. -/
theorem registry_rollback (grows : s.Grows t) :
    t.registry.rollback s.registry.checkpoint = s.registry := by
  change Registry.mk (t.registry.rollback s.registry.checkpoint).entries t.registry.building
    t.registry.reserved = s.registry
  rw [grows.entries_rollback, grows.building, grows.reserved]

/-- The session in which what was registered since the first one is dropped. -/
theorem dropped (grows : s.Grows t) :
    s.Grows { t with registry := t.registry.rollback s.registry.checkpoint } := by
  refine ⟨?_, grows.building, grows.reserved, grows.rebuilding, grows.hoisted, ?_, grows.dangling⟩
  · exact grows.entries_rollback ▸ List.prefix_rfl
  · intro name member absent
    unfold Registry.get? at absent ⊢
    rwa [grows.entries_rollback]

end Session.Grows

/-- The names and the names in progress are all that `Closed` looks at. -/
theorem Registry.Closed.of_entries {registry later : Registry} (closed : registry.Closed)
    (entries : later.entries = registry.entries) (building : later.building = registry.building) :
    later.Closed := by
  intro entry member
  refine (closed entry (entries ▸ member)).mono fun name held => ?_
  rw [Registry.contains_iff] at held ⊢
  unfold Registry.get? at held ⊢
  rwa [entries, building]

/-- Giving up leaves a session that continues the one at the start. -/
theorem Run.returns_rollback {s t u : Session} {a : Unit} (closed : s.registry.Closed)
    (grows : s.Grows t)
    (returned : Run.Returns (Run.rollback s.registry.checkpoint) t a u) :
    s.Grows u ∧ u.registry.Closed := by
  obtain ⟨log, again⟩ := Run.exists_rollback s.registry.checkpoint t
  obtain ⟨-, rfl⟩ := returned.unique again
  have dropped := grows.dropped
  exact ⟨⟨dropped.entries, dropped.building, dropped.reserved, dropped.rebuilding,
    dropped.hoisted, dropped.waiting, dropped.dangling⟩,
    closed.of_entries grows.entries_rollback grows.building⟩

namespace SignatureBuilder

variable {builder : SignatureBuilder} {schemas : Node} {known : List Ty}

/-! ## Signatures -/

/-- The types of the signature of an operation, none when it is given up. -/
theorem carries_build (sound : builder.translator.ties.Sound schemas)
    {functionName method path : String} {operation shared : Node} :
    Run.Carries known (builder.build functionName method path operation shared)
      (Mapping.typesOf Signature.types) := by
  refine ⟨fun {s t built} closed covers returned => ?_⟩
  unfold build at returned
  simp only [Run.returns_bind, Run.returns_registry] at returned
  obtain ⟨r, u, ⟨rfl, rfl⟩, found, v, searched, rest⟩ := returned
  have translates : ∀ {known : List Ty} {node : Node} {context : String},
      Run.Carries known (builder.translator.translateNode node context) fun type => [type] :=
    Translator.carries_translateNode sound
  obtain ⟨grows, after, gives⟩ :=
    (Run.Carries.rules.candidates translates).keeps closed covers searched
  cases found with
  | none =>
      simp only [Run.returns_bind, Run.returns_lift, Run.returns_report, Run.returns_pure] at rest
      obtain ⟨nothing, w, rolled, operationId, x, ⟨-, rfl⟩, label, y, ⟨-, rfl⟩, -, z, rfl, rfl,
        rfl⟩ := rest
      obtain ⟨restored, closedAgain⟩ := Run.returns_rollback closed grows rolled
      have told := Session.Grows.reported w .signatureFailed [label] (by decide)
      exact ⟨restored.trans told, closedAgain, by simp [Mapping.typesOf]⟩
  | some candidates =>
      have known : ∀ type ∈ Parameter.types candidates ++ known, v.registry.Covers type := by
        intro type member
        rcases List.mem_append.1 member with new | old
        · exact gives type new
        · exact (covers type old).mono fun name => grows.contains
      obtain ⟨more, finished, covered⟩ := (Run.Carries.rules.signature translates fun type =>
        List.mem_append_left _).keeps after known rest
      exact ⟨grows.trans more, finished, covered⟩

end SignatureBuilder

end TypedContract
