/-
# TypedContract.Proofs.Translation.Translator -- the translator of a document

A translator is made from the component schemas of a document, whose names it
reserves; then it registers each of them.  Both steps say much about the document
already: schemas that are no object have no components to register.
-/
import TypedContract.Proofs.Json.Standing
import TypedContract.Proofs.Translation.Recordlike
import TypedContract.Proofs.Translation.Soundness

namespace TypedContract

set_option autoImplicit false

open Translation

/-! ## The component schemas -/

theorem Contract.stands_schemas {number : Nat} {contract : Json} {document schemas : Node}
    (stands : document.Stands number contract) (found : Contract.schemas document = .ok schemas) :
    schemas.Stands number contract := by
  simp only [Contract.schemas, except_bind_eq_ok, except_pure_eq_ok] at found
  obtain ⟨components, held, inner, member, rfl⟩ := found
  exact ((stands.member held).orElse.member member).orElse

/-- What is inside the component schemas is inside the document. -/
theorem Contract.inside_document {document schemas part : Node}
    (found : Contract.schemas document = .ok schemas) (inside : part.Inside schemas) :
    part.Inside document := by
  simp only [Contract.schemas, except_bind_eq_ok, except_pure_eq_ok] at found
  obtain ⟨components, held, inner, member, rfl⟩ := found
  have within : part.Inside (components.orElse (.object [])) :=
    (inside.of_orElse fun _ _ => rfl).of_member member
  exact (within.of_orElse fun _ _ => rfl).of_member held

theorem Contract.truthy_schemas {document schemas : Node}
    (found : Contract.schemas document = .ok schemas) :
    schemas.value.truthy = true ∨ schemas.value = .object [] := by
  simp only [Contract.schemas, except_bind_eq_ok, except_pure_eq_ok] at found
  obtain ⟨components, -, inner, -, rfl⟩ := found
  unfold Node.orElse
  split
  · rename_i truthy
    exact .inl truthy
  · exact .inr rfl

theorem Translation.exists_componentBound (schemas : Node) :
    ∃ n, componentBound schemas = n + 2 := by
  unfold componentBound
  split
  · exact ⟨_, rfl⟩
  · exact ⟨0, rfl⟩

namespace Translator

variable {document : Node} {translator : Translator} {s t : Session}

/-! ## Making a translator -/

/-- A new translator ties the component schemas and reserves their names. -/
theorem returns_create (returned : Run.Returns (create document) s translator t) :
    Contract.schemas document = .ok translator.schemas ∧
      translator.ties =
        Ties.within translator.schemas (componentBound translator.schemas) ∧
      ∃ names, (translator.schemas.value.elements >>= (·.mapM Json.key)) = .ok names ∧
        t = { s with registry := s.registry.reserve (names.filterMap Json.str?) } := by
  unfold create at returned
  simp only [Run.returns_bind, Run.returns_lift, Run.returns_onRegistry, Run.returns_pure]
    at returned
  obtain ⟨schemas, u, ⟨found, rfl⟩, names, v, ⟨listed, rfl⟩, -, w, rfl, rfl, rfl⟩ := returned
  have same : (Ties.within schemas (componentBound schemas)).schemas = schemas :=
    (Ties.within_sound schemas _).same
  unfold Translator.schemas
  rw [same]
  exact ⟨found, rfl, names, listed, rfl⟩

/-- A translator of a new registry begins with nothing registered and nothing in progress. -/
theorem empty_create (fresh : s.registry = {})
    (returned : Run.Returns (create document) s translator t) :
    t.registry.entries = [] ∧ t.registry.building = [] ∧ t.hoisted = s.hoisted := by
  obtain ⟨-, -, names, -, rfl⟩ := returns_create returned
  refine ⟨?_, ?_, rfl⟩
  · rw [fresh]
    rfl
  · rw [fresh]
    rfl

theorem sound_create (returned : Run.Returns (create document) s translator t) :
    translator.ties.Sound translator.schemas := by
  rw [(returns_create returned).2.1]
  exact Ties.within_sound translator.schemas _

/-! ## Registering the components -/

/-- What each registration keeps, registering all components keeps. -/
theorem components_induction {keeps : Session → Prop} {done : Unit}
    (each : ∀ {name s type t}, keeps s → Run.Returns (translator.component name) s type t → keeps t)
    (returned : Run.Returns translator.components s done t) (start : keeps s) : keeps t := by
  unfold components at returned
  obtain ⟨names, u, listed, registered⟩ := Run.returns_bind.1 returned
  obtain ⟨-, rfl⟩ := Run.returns_lift.1 listed
  clear returned listed
  induction names generalizing s with
  | nil => exact Run.returns_forM_nil.1 registered ▸ start
  | cons name rest ih =>
      obtain ⟨nothing, v, first, others⟩ := Run.returns_forM_cons.1 registered
      simp only [Run.returns_bind, Run.returns_lift, Run.returns_pure] at first
      obtain ⟨key, _, ⟨-, rfl⟩, type, w, own, -, rfl⟩ := first
      exact ih (each start own) others

/-- Schemas that are no object have no components to register. -/
theorem object_of_components {done : Unit} {u : Session}
    (created : Run.Returns (create document) s translator t)
    (registered : Run.Returns translator.components t done u) :
    ∃ entries, translator.schemas.value = .object entries := by
  obtain ⟨found, ties, names, listed, -⟩ := returns_create created
  have truthy := Contract.truthy_schemas found
  obtain ⟨n, bound⟩ := exists_componentBound translator.schemas
  unfold components at registered
  obtain ⟨values, v, walked, each⟩ := Run.returns_bind.1 registered
  obtain ⟨walked, rfl⟩ := Run.returns_lift.1 walked
  -- what counts and can be walked has a part, which is then asked for by name: only an object
  -- answers
  by_contra apart
  cases values with
  | nil =>
      cases kind : translator.schemas.value with
      | object entries => exact apart ⟨entries, kind⟩
      | list items =>
          rw [kind] at walked truthy
          cases walked
          simp [Json.truthy] at truthy
      | str text =>
          rw [kind] at walked truthy
          have empty : text.toList = [] := by simpa [Json.elements] using walked
          have blank : text = "" := String.toList_eq_nil_iff.1 empty
          simp [Json.truthy, blank] at truthy
      | _ => rw [kind] at walked; cases walked
  | cons value rest =>
      obtain ⟨nothing, w, first, -⟩ := Run.returns_forM_cons.1 each
      simp only [Run.returns_bind, Run.returns_lift, Run.returns_pure] at first
      obtain ⟨key, _, ⟨-, rfl⟩, type, x, own, -, rfl⟩ := first
      unfold component at own
      rw [ties, bound] at own
      obtain ⟨node, y, required, -⟩ := Run.returns_bind.1 own
      obtain ⟨required, -⟩ := Run.returns_lift.1 required
      unfold Node.required at required
      split at required
      · rename_i entries object
        exact apart ⟨entries, object⟩
      · cases required

/-- The keys of an object can serve as keys. -/
theorem mapM_key_entries (entries : List (String × Json)) :
    (entries.map fun entry => Json.str entry.1).mapM Json.key =
      .ok (entries.map fun entry => Json.str entry.1) := by
  induction entries with
  | nil => rfl
  | cons entry rest ih =>
      rw [List.map_cons, List.mapM_cons, ih]
      rfl

/-- Schemas that are an object have a translator. -/
theorem exists_create {schemas : Node} (found : Contract.schemas document = .ok schemas)
    (object : ∃ entries, schemas.value = .object entries) (s : Session) :
    ∃ t, Run.Returns (create document) s ⟨Ties.within schemas (componentBound schemas)⟩ t := by
  obtain ⟨entries, object⟩ := object
  have listed : (schemas.value.elements >>= (·.mapM Json.key)) =
      .ok (entries.map fun entry => Json.str entry.1) := by
    rw [object]
    exact mapM_key_entries entries
  unfold create
  simp only [Run.returns_bind, Run.returns_lift, Run.returns_onRegistry, Run.returns_pure]
  exact ⟨_, schemas, s, ⟨found, rfl⟩, _, s, ⟨listed, rfl⟩, (), _, rfl, rfl, rfl⟩

/-- The names of all components are reserved. -/
theorem reserves_create (created : Run.Returns (create document) s translator t)
    (object : ∃ entries, translator.schemas.value = .object entries) :
    ReservesComponents translator.schemas t.registry := by
  obtain ⟨found, ties, names, listed, rfl⟩ := returns_create created
  obtain ⟨entries, object⟩ := object
  intro name held
  rw [object] at held listed
  cases (mapM_key_entries entries).symm.trans listed
  obtain ⟨value, found⟩ := Option.isSome_iff_exists.1 (Except.ok.inj held)
  refine List.mem_append_right _ ?_
  rw [List.filterMap_map]
  exact List.mem_filterMap.2 ⟨(name, value), Json.mem_of_find? found, rfl⟩

end Translator

end TypedContract
