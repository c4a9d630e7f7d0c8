/-
# TypedContract.Proofs.Translation.Keys -- what the names of the registry stand for

Entries are written by registrations inside registrations: of components, of inline
objects that are hoisted, and of objects hoisted while an unfinished component is built
anew.  Each entry has an origin all the same (`Derives.traced`), so its key tells what it
is.  A component that is a record is named like its key (`Derives.eq_of_named_record`),
and so is a hoisted record; a key that is no component was given to an object with a place
in the document (`hoistedRecord_of_registered`).

No name is registered twice and each component is registered, so registering all
components again finds each of them and changes nothing (`returns_component_again`).
`Translator.registered_keys` puts the four together.
-/
import TypedContract.Proofs.Translation.Hoisting
import TypedContract.Proofs.Translation.Order

namespace TypedContract

set_option autoImplicit false

namespace Translation

variable {schemas : Node} {number : Nat} {contract : Json} {s t : Session}

/-! ## Records and their keys -/

theorem withNil_eq_record {nullable : Bool} {type : Ty} {name : Option String}
    {fields : List (Field Ty)} {text : String}
    (record : withNil nullable type = .record name fields text) :
    type = .record name fields text := by
  unfold withNil at record
  split at record
  · cases record
  · exact record

/-- A merge gives a record the name that it merges under. -/
theorem Derives.eq_of_combined_record {facts : Schema.Facts} {merge name : Option String}
    {types : List Ty} {fields : List (Field Ty)} {text : String}
    (derived : Derives schemas (.combined facts merge types s (.record name fields text) t)) :
    name = merge := by
  cases derived
  rfl

/-- A component that is a record is named like its key. -/
theorem Derives.eq_of_named_record {key text : String} {schema : Schema} {name : Option String}
    {fields : List (Field Ty)}
    (derived : Derives schemas (.named key schema s (.record name fields text) t)) :
    name = some key := by
  generalize given : Ty.record name fields text = type at derived
  cases derived with
  | namedRecord kind properties inside described =>
      cases given
      rfl
  | namedMerge kind inside merge =>
      subst given
      exact merge.eq_of_combined_record
  | namedUnion kind inside =>
      unfold Translation.namedUnion at given
      split at given <;> cases given
  | namedOther record merge union inside =>
      obtain ⟨inner, shape, bare⟩ := inside.of_schema
      obtain rfl := withNil_eq_record (shape.symm.trans given.symm)
      generalize given' : Ty.record name fields text = type' at bare
      cases bare with
      | record kind properties => exact absurd (record kind) properties
      | allOf kind => exact absurd kind merge
      | scalar kind typed =>
          obtain ⟨values?, -, rfl⟩ := scalar_eq_ok typed
          cases given'
      | reference =>
          unfold referenceType at given'
          split at given' <;> cases given'
      | _ => cases given'

/-! ## Objects with a place -/

/-- The children of what has a place have places, and so have the components. -/
theorem inherited_belowRoot (found : Contract.schemas (.root number contract) = .ok schemas) :
    Inherited schemas (·.BelowRoot number contract) where
  component := by
    intro name schema parsed
    obtain ⟨node, required, parsed⟩ := except_bind_eq_ok.1 parsed
    have inside : node.Inside (.root number contract) :=
      Contract.inside_document found (Node.inside_required required)
    exact ⟨node, inside, .of_parse parsed⟩
  item := fun placed items => placed.child (.item items)
  value := fun placed additional => placed.child (.value additional)
  property := fun placed member => placed.child (.property member)
  member := fun placed inside => placed.child (.member inside)

/-- The name is registered with the record of the inline object at a place of the document,
to which the name was given. -/
def HoistedRecord (number : Nat) (contract : Json) (t : Session) (name : String) : Prop :=
  ∃ path raw schema fields text, contract.at? path = some raw ∧
    Schema.Parsed ⟨raw, some ⟨number, path⟩⟩ schema ∧ schema.facts.kind = .object ∧
    schema.properties ≠ [] ∧ t.registry.get? name = some (.record (some name) fields text) ∧
    fields.map Field.name = raw.propertyNames ∧ (name, some ⟨number, path⟩) ∈ t.hoisted

theorem hoistedRecord_of_registered {name : String} {type : Ty}
    (registered : Registered schemas (·.BelowRoot number contract) t name type)
    (found : t.registry.get? name = some type) (apart : name ∉ componentNames schemas) :
    HoistedRecord number contract t name := by
  cases registered with
  | component builds before => exact absurd (mem_componentNames_of_schema builds.parsed) apart
  | @hoisted context text schema s u fields placed hoists before =>
      obtain ⟨path, raw, here, parsed⟩ := placed.exists_path
      have given := before.hoisted.subset hoists.given
      rw [parsed.belowRoot hoists.kind] at given
      refine ⟨path, raw, schema, fields, text, here, parsed, hoists.kind, hoists.properties, found,
        ?_, given⟩
      rw [hoists.inside.fieldNames, parsed.propertyNames hoists.kind]

/-- A registered record is named like its key, whatever it comes from. -/
theorem eq_of_registered_record {fits : Schema → Prop} {key text : String} {name : Option String}
    {fields : List (Field Ty)}
    (registered : Registered schemas fits t key (.record name fields text)) : name = some key := by
  cases registered with
  | component builds before => exact builds.inside.eq_of_named_record
  | hoisted placed hoists before => rfl

end Translation

namespace Translator

open Translation

variable {number : Nat} {contract : Json} {translator : Translator} {s t : Session}

/-! ## Registering all components again -/

/-- A registered component is found as it is. -/
theorem returns_component_again {schemas node : Node} {bound : Nat} {name : String} {type : Ty}
    (required : schemas.required name = .ok node) (found : t.registry.get? name = some type) :
    Run.Returns ((Ties.within schemas (bound + 1)).component name) t type t := by
  refine Run.returns_bind.2 ⟨node, t, Run.returns_lift.2 ⟨required, rfl⟩, ?_⟩
  exact Run.returns_register.2 (.inl ⟨Registry.enter_eq_inl_iff.2 (.inl found), rfl⟩)

theorem exists_required {schemas : Node} {entries : List (String × Json)}
    (object : schemas.value = .object entries) {entry : String × Json} (member : entry ∈ entries) :
    ∃ node, schemas.required entry.1 = .ok node := by
  obtain ⟨value, found⟩ := Json.exists_find? member
  obtain ⟨node, required, -⟩ := Node.exists_required_of_find? object found
  exact ⟨node, required⟩

/-- Names that are registered are found one by one, and nothing changes. -/
theorem returns_forM_component_again {schemas : Node} {bound : Nat}
    (ties : translator.ties = Ties.within schemas (bound + 1))
    {entries : List (String × Json)}
    (each : ∀ entry ∈ entries, (∃ node, schemas.required entry.1 = .ok node) ∧
      ∃ type, t.registry.get? entry.1 = some type) :
    Run.Returns ((entries.map fun entry => Json.str entry.1).forM fun name => do
      let _ ← translator.component (← Run.lift name.text)) t () t := by
  induction entries with
  | nil => exact Run.returns_forM_nil.2 rfl
  | cons entry rest ih =>
      obtain ⟨⟨⟨node, required⟩, type, found⟩, others⟩ := List.forall_mem_cons.1 each
      have own : Run.Returns (translator.component entry.1) t type t := by
        unfold component
        rw [ties]
        exact returns_component_again required found
      refine Run.returns_forM_cons.2 ⟨(), t, ?_, ih others⟩
      simp only [Run.returns_bind, Run.returns_lift, Run.returns_pure]
      exact ⟨entry.1, t, ⟨rfl, rfl⟩, type, t, own, trivial, rfl⟩

/-- After all components of a document are registered, each component name stands once
among the names, every other name is that of a record hoisted from an inline object, every
record is named like its key, and registering all components again changes nothing. -/
theorem registered_keys (fresh : s.registry = {}) (new : s.hoisted = [])
    (returned : Run.Returns (registerAll (.root number contract)) s translator t) :
    (∀ name ∈ componentNames translator.schemas, t.registry.names.count name = 1) ∧
    (∀ name ∈ t.registry.names, name ∉ componentNames translator.schemas →
      HoistedRecord number contract t name) ∧
    (∀ given ∈ t.hoisted, given.1 ∉ componentNames translator.schemas) ∧
    (∀ key name fields text, (key, Ty.record name fields text) ∈ t.registry.entries →
      name = some key) ∧
    Run.Returns translator.components t () t := by
  obtain ⟨u, done, created, registered⟩ := returns_registerAll returned
  obtain ⟨entries, object⟩ := object_of_components created registered
  have sound : translator.ties.Sound translator.schemas := sound_create created
  obtain ⟨found, ties, -⟩ := returns_create created
  obtain ⟨empty, -⟩ := empty_create fresh created
  have prepared : Prepared translator.schemas number contract t :=
    (Calls.components .none registered).prepared sound (prepared_create fresh new created)
  have distinct : t.registry.names.Nodup := by
    refine @components_induction translator _ t (fun s => s.registry.names.Nodup) done
      (fun distinct own => (sound.component own).names_nodup distinct) registered ?_
    rw [Registry.names, empty]
    exact List.nodup_nil
  -- each entry comes with the derivation that registered it
  have traced : Traced translator.schemas (·.BelowRoot number contract) t := by
    refine components_induction
      (fun traced own => (sound.component own).traced (inherited_belowRoot found) trivial traced)
      registered ?_
    intro entry member
    rw [empty] at member
    cases member
  have complete : ∀ entry ∈ entries, ∃ type, t.registry.get? entry.1 = some type := by
    intro entry member
    refine registered_components sound ⟨entries, object⟩ registered prepared.idle ?_
    obtain ⟨value, here⟩ := Json.exists_find? member
    rw [object, Json.holds, here]
    rfl
  refine ⟨fun name member => ?_, fun name member apart => ?_, fun given member component => ?_,
    fun key name fields text member => eq_of_registered_record (traced _ member), ?_⟩
  · rw [componentNames, object] at member
    obtain ⟨entry, inside, rfl⟩ := List.mem_map.1 member
    exact List.count_eq_one_of_mem distinct (Registry.mem_names_iff.2 (complete entry inside))
  · obtain ⟨type, held⟩ := Registry.mem_names_iff.1 member
    exact hoistedRecord_of_registered (traced _ (Registry.mem_entries_of_get? held)) held apart
  · exact prepared.orderly.free member (prepared.reserves _ component)
  · -- every component is registered by now, so asking for them again changes nothing
    obtain ⟨n, bound⟩ := exists_componentBound translator.schemas
    rw [bound] at ties
    unfold components
    refine Run.returns_bind.2 ⟨_, t, Run.returns_lift.2 ⟨by rw [object]; rfl, rfl⟩, ?_⟩
    exact returns_forM_component_again ties fun entry member =>
      ⟨exists_required object member, complete entry member⟩

/-- Components that refer to one another, one of them with an inline object. -/
theorem registered_keys_knot : ∃ s translator t, s.registry = {} ∧ s.hoisted = [] ∧
    Run.Returns (registerAll (.root 0 knotContract)) s translator t ∧
    t.registry.names.count "Node" = 1 ∧ HoistedRecord 0 knotContract t "NodeInline" ∧
    Run.Returns translator.components t () t := by
  have ok : ((registerAll (.root 0 knotContract)).passes {} fun translator t =>
      (componentNames translator.schemas).contains "Node" &&
      t.registry.names.contains "NodeInline" &&
      !(componentNames translator.schemas).contains "NodeInline") = true := by decide +kernel
  obtain ⟨translator, t, returned, named⟩ := Run.exists_returns_of ok
  simp only [Bool.and_eq_true, Bool.not_eq_true', List.contains_iff_mem,
    ← Bool.not_eq_true] at named
  obtain ⟨once, hoisted, -, -, again⟩ := registered_keys rfl rfl returned
  exact ⟨{}, translator, t, rfl, rfl, returned, once _ named.1.1, hoisted _ named.1.2 named.2, again⟩

end Translator

end TypedContract
