/-
# TypedContract.Proofs.Fragments.Steps -- the steps from a contract to its fragments

A run that yields fragments registers the components, names and maps the operations,
reports dangling references and declares what is registered.  `Steps` has the results and
the sessions between these steps; what holds of a run is proved from them one after the
other (`exists_steps`).
-/
import TypedContract.Fragments
import TypedContract.Proofs.Returning

namespace TypedContract.Fragments

set_option autoImplicit false

/-- The steps of a run that yields the fragments. -/
structure Steps (document : Node) (configuration : Configuration) (fragments : Fragments)
    (translator : Translator) (operations : List Contract.Operation) (names : List String)
    (s s₁ s₂ s₃ s₄ s₅ t : Session) : Prop where
  created : Run.Returns (Translator.create document) s translator s₁
  components : Run.Returns translator.components s₁ () s₂
  listed : Contract.operations document = .ok operations
  named : functionNames operations = .ok names
  mapped : Run.Returns (signatures { document, translator, configuration }
    (names.zip operations)) s₂ fragments.operations s₃
  reported : Run.Returns (s₃.registry.dangling.forM fun name =>
    Run.report .danglingReference [name]) s₃ () s₄
  declared : Run.Returns (s₄.registry.entries.mapM fun entry =>
    declaration translator.schemas.value entry.1 entry.2) s₄ fragments.types s₅
  noted : ∃ message, Run.Returns (Run.note .info .driver message) s₅ () t

variable {document : Node} {configuration : Configuration} {s t : Session} {fragments : Fragments}

theorem exists_steps (returned : Run.Returns (ofContract document configuration) s fragments t) :
    ∃ translator operations names s₁ s₂ s₃ s₄ s₅,
      Steps document configuration fragments translator operations names s s₁ s₂ s₃ s₄ s₅ t := by
  unfold ofContract at returned
  simp only [Run.returns_bind, Run.returns_lift, Run.returns_registry, Run.returns_get,
    Run.returns_pure] at returned
  obtain ⟨translator, s₁, created, _, s₂, components, operations, _, ⟨listed, rfl⟩, names, _,
    ⟨named, rfl⟩, _, _, ⟨-, rfl⟩, _, _, ⟨-, rfl⟩, _, _, ⟨-, rfl⟩, built, s₃, mapped,
    _, _, ⟨rfl, rfl⟩, _, s₄, reported, _, _, ⟨rfl, rfl⟩, types, s₅, declared,
    _, _, ⟨rfl, rfl⟩, _, _, noted, rfl, rfl⟩ := returned
  exact ⟨translator, operations, names, s₁, s₂, s₃, s₄, s₅,
    created, components, listed, named, mapped, reported, declared, _, noted⟩

/-- Reports of dangling references leave the registry alone. -/
theorem registry_of_forM_report {names : List String} {done : PUnit}
    (returned : Run.Returns
      (names.forM fun name => Run.report .danglingReference [name]) s done t) :
    t.registry = s.registry := by
  induction names generalizing s with
  | nil => rw [Run.returns_forM_nil.1 returned]
  | cons name rest ih =>
      obtain ⟨_, u, first, others⟩ := Run.returns_forM_cons.1 returned
      rw [ih others, ← Run.returns_report.1 first]

end TypedContract.Fragments
