/-
# TypedContract.Proofs.Fragments.Closed -- no reference of a client dangles

Every step from the first component to the last operation carries the types of its
result, so the registry is closed at the end.  Nothing is in progress by then:
each reference names an entry, each entry becomes a declaration, and the search for
dangling references finds none.
-/
import TypedContract.Proofs.Fragments.Steps
import TypedContract.Proofs.Signature.Closed
import TypedContract.Proofs.Translation.Translator

namespace TypedContract

set_option autoImplicit false

/-! ## The end of a run -/

namespace Registry

variable {registry : Registry} {name : String} {type : Ty}

/-- When nothing is in progress, what is covered is registered. -/
theorem Covers.registered (covers : registry.Covers type) (idle : registry.building = [])
    (member : name ∈ type.references) : name ∈ registry.names := by
  rcases contains_iff.1 (covers name member) with found | building
  · exact mem_names_iff.2 found
  · rw [idle] at building
    cases building

theorem addMissing_of_registered {names missing : List String}
    (registered : ∀ name ∈ names, name ∈ registry.names) :
    registry.addMissing missing names = missing := by
  induction names with
  | nil => rfl
  | cons name rest ih =>
      have known : (registry.get? name).isSome = true := by
        obtain ⟨type, found⟩ := mem_names_iff.1 (registered name List.mem_cons_self)
        rw [found]
        rfl
      simp only [addMissing, known, Bool.true_or, if_true]
      exact ih fun other member => registered other (List.mem_cons_of_mem _ member)

/-- A closed registry without names in progress has no dangling references. -/
theorem Closed.dangling (closed : registry.Closed) (idle : registry.building = []) :
    registry.dangling = [] := by
  refine addMissing_of_registered fun name member => ?_
  obtain ⟨entry, held, inside⟩ := List.mem_flatMap.1 member
  exact (closed entry held).registered idle inside

end Registry

/-! ## The translator -/

namespace Translator

theorem carries_components {translator : Translator} {schemas : Node}
    (sound : translator.ties.Sound schemas) {known : List Ty} :
    Run.Carries known translator.components Run.untyped := by
  refine .next .lift fun names => ?_
  induction names with
  | nil => exact .pure (by simp [Run.untyped])
  | cons name rest ih =>
      refine .next (.next .lift fun key => ?_) fun _ => ih
      exact .bind (carries_component sound) fun type => .pure (by simp [Run.untyped])

end Translator

namespace Fragments

variable {known : List Ty}

/-! ## Declarations -/

theorem carries_fieldAnnotations {name : String} {properties : Json} {fields : List (Field Ty)} :
    ∀ {found : List (String × List Annotation)},
      Run.Carries known (fieldAnnotations name properties found fields) Run.untyped := by
  induction fields with
  | nil => exact .pure (by simp [Run.untyped])
  | cons field rest ih =>
      intro found
      refine .next .lift fun property => ?_
      split
      · exact ih
      · exact .next Run.Carries.rules.annotationsFor fun annotations => ih

theorem carries_declaration {schemas : Json} {name : String} {type : Ty} :
    Run.Carries known (declaration schemas name type) Run.untyped := by
  refine .next .lift fun raw => ?_
  split
  · exact .pure (by simp [Run.untyped])
  · split
    · refine .next .lift fun properties => .next carries_fieldAnnotations fun fields => ?_
      exact .next Run.Carries.rules.annotationsFor fun annotations => .pure (by simp [Run.untyped])
    · refine .next (.pure (by simp [Run.untyped])) fun fields => ?_
      exact .next Run.Carries.rules.annotationsFor fun annotations => .pure (by simp [Run.untyped])

/-- A declaration keeps the name and the type of its entry. -/
theorem returns_declaration {schemas : Json} {name : String} {type : Ty} {s t : Session}
    {declared : TypeDeclaration} (returned : Run.Returns (declaration schemas name type) s declared t) :
    declared.name = name ∧ declared.type = type := by
  unfold declaration at returned
  obtain ⟨raw, u, -, returned⟩ := Run.returns_bind.1 returned
  split at returned
  · obtain ⟨rfl, -⟩ := Run.returns_pure.1 returned
    exact ⟨rfl, rfl⟩
  · split at returned
    · simp only [Run.returns_bind, Run.returns_pure] at returned
      obtain ⟨properties, v, -, fields, w, -, annotations, x, -, rfl, -⟩ := returned
      exact ⟨rfl, rfl⟩
    · simp only [Run.returns_bind, Run.returns_pure] at returned
      obtain ⟨fields, v, -, annotations, w, -, rfl, -⟩ := returned
      exact ⟨rfl, rfl⟩

/-- The entries of the registry become declarations one by one. -/
theorem returns_declarations {schemas : Json} {entries : List (String × Ty)} {s t : Session}
    {declared : List TypeDeclaration} (closed : s.registry.Closed)
    (returned : Run.Returns
      (entries.mapM fun entry => declaration schemas entry.1 entry.2) s declared t) :
    s.Grows t ∧ declared.map (fun type => (type.name, type.type)) = entries := by
  induction entries generalizing s declared with
  | nil =>
      obtain ⟨rfl, rfl⟩ := Run.returns_pure.1 returned
      exact ⟨.refl _, rfl⟩
  | cons entry rest ih =>
      simp only [List.mapM_cons, Run.returns_bind, Run.returns_pure] at returned
      obtain ⟨first, u, head, others, v, tail, rfl, rfl⟩ := returned
      have carries : Run.Carries [] (declaration schemas entry.1 entry.2) Run.untyped :=
        carries_declaration
      have kept := carries.keeps closed (by simp) head
      obtain ⟨grows, mapped⟩ := ih kept.2.1 tail
      obtain ⟨named, typed⟩ := returns_declaration head
      exact ⟨kept.1.trans grows, by rw [List.map_cons, mapped, named, typed]⟩

/-! ## Operations -/

/-- The types that occur in signatures. -/
def signatureTypes (signatures : List Signature) : List Ty := signatures.flatMap Signature.types

theorem carries_signatures {builder : SignatureBuilder} {schemas : Node}
    (sound : builder.translator.ties.Sound schemas)
    {operations : List (String × Contract.Operation)} : ∀ {known : List Ty},
    Run.Carries known (signatures builder operations) signatureTypes := by
  induction operations with
  | nil => exact .pure (by simp [signatureTypes])
  | cons operation rest ih =>
      intro known
      refine .bind (SignatureBuilder.carries_build sound) fun built? => ?_
      cases built? with
      | none => exact .next .note fun _ => ih
      | some built =>
          refine .bind ih fun others => .pure ?_
          simp only [signatureTypes, List.flatMap_cons, List.mem_append, Mapping.typesOf]
          tauto

/-! ## The whole contract -/

/-- The types of the declarations, of the parameters and of the results. -/
def occurring (fragments : Fragments) : List Ty :=
  fragments.types.map (·.type) ++ signatureTypes fragments.operations

/-- The registry at the end of the operations is closed and covers the types of the
operations; its entries are what is declared. -/
theorem returns_ofContract {document : Node} {configuration : Configuration} {s t : Session}
    {fragments : Fragments} (fresh : s.registry = {})
    (returned : Run.Returns (ofContract document configuration) s fragments t) :
    ∃ registry : Registry, registry.Closed ∧ registry.building = [] ∧
      (∀ type ∈ signatureTypes fragments.operations, registry.Covers type) ∧
      fragments.types.map (fun declared => (declared.name, declared.type)) = registry.entries ∧
      t.danglingReports = s.danglingReports := by
  obtain ⟨translator, operations, names, s₁, s₂, s₃, s₄, s₅, steps⟩ := exists_steps returned
  have sound := Translator.sound_create steps.created
  obtain ⟨begins, unbuilt, quiet⟩ : s₁.registry.Closed ∧ s₁.registry.building = [] ∧
      s₁.danglingReports = s.danglingReports := by
    obtain ⟨-, -, reserved, -, rfl⟩ := Translator.returns_create steps.created
    exact ⟨by simp [fresh, Registry.reserve, Registry.Closed], by simp [fresh, Registry.reserve],
      rfl⟩
  have carriesComponents : Run.Carries [] translator.components Run.untyped :=
    Translator.carries_components sound
  obtain ⟨first, closed₂, -⟩ := carriesComponents.keeps begins (by simp) steps.components
  have carriesSignatures : Run.Carries [] (signatures { document, translator, configuration }
      (names.zip operations)) signatureTypes := carries_signatures sound
  obtain ⟨second, closed₃, covered⟩ := carriesSignatures.keeps closed₂ (by simp) steps.mapped
  have idle : s₃.registry.building = [] := by
    rw [second.building, first.building, unbuilt]
  have reported := steps.reported
  rw [closed₃.dangling idle] at reported
  obtain rfl := Run.returns_forM_nil.1 reported
  obtain ⟨third, entries⟩ := returns_declarations closed₃ steps.declared
  obtain ⟨message, noted⟩ := steps.noted
  obtain rfl := Run.returns_note.1 noted
  exact ⟨s₃.registry, closed₃, idle, covered, entries,
    third.dangling.trans (second.dangling.trans (first.dangling.trans quiet))⟩

/-- Every reference at any depth of a type that occurs in the fragments names one of
their declarations, and no run that yields fragments finds a dangling reference. -/
theorem ofContract_closed {document : Node} {configuration : Configuration} {s t : Session}
    {fragments : Fragments} (fresh : s.registry = {})
    (returned : Run.Returns (ofContract document configuration) s fragments t) :
    (∀ type ∈ fragments.occurring, ∀ name ∈ type.references,
      ∃ declared ∈ fragments.types, declared.name = name) ∧
    t.danglingReports = s.danglingReports := by
  obtain ⟨registry, closed, idle, covered, entries, quiet⟩ := returns_ofContract fresh returned
  refine ⟨fun type occurs name inside => ?_, quiet⟩
  have covers : registry.Covers type := by
    rcases List.mem_append.1 occurs with declared | signed
    · obtain ⟨declaration, member, rfl⟩ := List.mem_map.1 declared
      exact closed (declaration.name, declaration.type) (entries ▸ List.mem_map_of_mem member)
    · exact covered type signed
  have registered : name ∈ registry.names := covers.registered idle inside
  rw [Registry.names, ← entries, List.map_map] at registered
  obtain ⟨declared, member, rfl⟩ := List.mem_map.1 registered
  exact ⟨declared, member, rfl⟩

/-- A schema that refers to itself, an operation that gives lists of it, and one that is
given up after it has registered a record. -/
def nodeContract : Json :=
  let node : Json := .object [("$ref", .str "#/components/schemas/Node")]
  let record : Json := .object [("type", .str "object"), ("properties", .object [("next", node)])]
  .object [
    ("paths", .object [
      ("/nodes", .object [("get", .object [("responses", .object [("200", .object [
        ("content", .object [("application/json", .object [("schema", .object [
          ("type", .str "array"), ("items", node)])])])])])])]),
      ("/nodes/{key}", .object [("get", .object [("parameters", .list [.object [
        ("name", .str "key"), ("in", .str "path"), ("schema", record)]])])])]),
    ("components", .object [("schemas", .object [("Node", record)])])]

theorem ofContract_closed_node : ∃ fragments t,
    Run.Returns (ofContract (.root 0 nodeContract) {}) {} fragments t ∧
    (∀ type ∈ fragments.occurring, ∀ name ∈ type.references,
      ∃ declared ∈ fragments.types, declared.name = name) ∧
    t.danglingReports = [] := by
  have ok : ((ofContract (.root 0 nodeContract) {}).passes {} fun _ _ => true) = true := by
    decide +kernel
  obtain ⟨fragments, t, returned⟩ := Run.exists_returns ok
  exact ⟨fragments, t, returned, ofContract_closed rfl returned⟩

end Fragments

end TypedContract
