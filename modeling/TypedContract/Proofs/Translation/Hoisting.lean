/-
# TypedContract.Proofs.Translation.Hoisting -- no two inline objects share a record

Contexts are put together from the names of components, properties and operations, so
the same context comes about in different ways, and the name made from it is looked up
again in a table that only knows names.  Still no two inline objects meet in one record.
A name is noted for the place it is given to before anything inside is translated
(`given_of_became`), it stays with that place (`Session.Orderly.once`), and what is
registered under it was built from the object at that place (`record_of_given`).  The
place tells the object, so distinct places have distinct records with the properties
that each object lists (`Translator.hoisted_apart`).
-/
import TypedContract.Proofs.Translation.Ending
import TypedContract.Proofs.Translation.Faithful
import TypedContract.Proofs.Translation.Inversion
import TypedContract.Proofs.Translation.Registration

namespace TypedContract

set_option autoImplicit false

/-! ## Properties -/

/-- The names under `properties` in a schema as the document has it, in its order. -/
def Json.propertyNames (raw : Json) : List String :=
  match raw with
  | .object entries =>
      match Json.find? "properties" entries with
      | some (.object properties) => properties.map (·.1)
      | _ => []
  | _ => []

theorem Ty.eq_of_same_reference {type : Ty} {name : String}
    (same : type.same (.reference name) = true) : type = .reference name := by
  cases type with
  | reference other => exact congrArg _ (eq_of_beq same)
  | _ => simp [Ty.same] at same

namespace Node

variable {node : Node}

theorem map_fst_entriesFrom {position : Nat} {entries : List (String × Json)} :
    (node.entriesFrom position entries).map Prod.fst = entries.map Prod.fst := by
  induction entries generalizing position with
  | nil => rfl
  | cons entry rest ih => simp [entriesFrom, ih]

theorem value_of_member {name : String} {held : Node} {entries : List (String × Json)}
    (object : node.value = .object entries) (found : node.member name = .ok held) :
    held.value = (Json.find? name entries).getD .null := by
  simp only [member, member?, object, except_ok_bind, except_pure_eq_ok] at found
  subst found
  cases value : Json.find? name entries with
  | none => simp [find?, value, free]
  | some value' =>
      obtain ⟨held, here, rfl⟩ := exists_find? node value
      simp [here]

/-- What is no object counts as one without entries where it counts as absent. -/
theorem names_of_entries {entries : List (String × Node)}
    (walked : (node.orElse (.object [])).entries = .ok entries) :
    entries.map Prod.fst = match node.value with
      | .object properties => properties.map Prod.fst
      | _ => [] := by
  unfold orElse Node.entries at walked
  obtain ⟨values, opened, same⟩ := except_bind_eq_ok.1 walked
  obtain rfl := except_pure_eq_ok.1 same
  rw [map_fst_entriesFrom]
  split at opened
  · cases value : node.value with
    | object properties =>
        rw [value] at opened
        cases opened
        rfl
    | _ => rw [value] at opened; cases opened
  · rename_i falsy
    cases opened
    cases value : node.value with
    | object properties =>
        rw [value] at falsy
        cases properties with
        | nil => rfl
        | cons entry rest => simp [Json.truthy] at falsy
    | _ => rfl

end Node

namespace Schema

/-- An object remembers the part it was parsed from. -/
theorem Parsed.node_of_object {node : Node} {schema : Schema} (parsed : Parsed node schema)
    (kind : schema.facts.kind = .object) : schema.facts.node = node :=
  parsed.node_cases.resolve_right fun ⟨_, any⟩ => nomatch kind.symm.trans any

theorem Parsed.belowRoot {raw : Json} {place : Place} {schema : Schema}
    (parsed : Parsed ⟨raw, some place⟩ schema) (kind : schema.facts.kind = .object) :
    schema.facts.node.place = some place := by
  rw [parsed.node_of_object kind]

/-- An object has the properties that the document lists, in the order of the document. -/
theorem Parsed.propertyNames {node : Node} {schema : Schema} (parsed : Parsed node schema)
    (kind : schema.facts.kind = .object) :
    schema.properties.map Prod.fst = node.value.propertyNames := by
  obtain ⟨bound, parsed⟩ := parsed
  cases bound with
  | zero => cases parsed
  | succ bound =>
      rcases parseWithin_cases parsed with ⟨null, facts, made, rfl⟩ | ⟨entries, object, inside⟩
      · rw [null]
        rfl
      · rcases inside with ⟨reference, -⟩ | ⟨-, parsed⟩
        · cases kind.symm.trans reference
        · obtain ⟨held, inner, found, walked, named⟩ := parsed.properties
          have names : schema.properties.map Prod.fst = inner.map Prod.fst :=
            map_eq_of_forall₂ (named.imp fun _ _ both => both.1.symm)
          rw [names, Node.names_of_entries walked, Node.value_of_member object found, object,
            Json.propertyNames]
          cases Json.find? "properties" entries with
          | none => rfl
          | some value => cases value <;> rfl

end Schema

namespace Translation

variable {schemas : Node} {number : Nat} {contract : Json} {s t : Session}

/-- A record has a field for each property, in their order. -/
theorem Derives.fieldNames {name : Option String} {required : List Json}
    {properties : List (String × Schema)} {fields : List (Field Ty)}
    (derived : Derives schemas (.fields name required properties s fields t)) :
    fields.map Field.name = properties.map Prod.fst := by
  induction properties generalizing s fields with
  | nil =>
      cases derived
      rfl
  | cons property rest ih =>
      cases derived with
      | fieldsCons head described tail => rw [List.map_cons, List.map_cons, ih tail]; rfl

/-! ## Names and places -/

/-- An inline object with a context becomes a reference to a name that its place was given. -/
theorem given_of_became {schema : Schema} {context name : String} {nilable : Bool}
    (became : Became schemas t schema context (referenceType nilable name))
    (kind : schema.facts.kind = .object) (contextual : context ≠ "") {place : Place}
    (placed : schema.facts.node.place = some place) :
    schema.properties ≠ [] ∧ (name, some place) ∈ t.hoisted := by
  obtain ⟨s, u, derived, before⟩ := became
  obtain ⟨inner, shape, bare⟩ := derived.of_schema
  have refers : inner = .reference name ∨ inner = .union none [.reference name, .nil] := by
    unfold referenceType withNil at shape
    split at shape <;> split at shape <;> cases shape <;> simp
  by_cases properties : schema.properties = []
  · rcases bare.of_map kind properties with ⟨-, -, rfl⟩ | ⟨_, _, -, rfl, -⟩ <;>
      rcases refers with same | same <;> cases same
  · refine ⟨properties, ?_⟩
    rcases bare.of_object kind properties with
      ⟨none, -⟩ | ⟨-, rfl, rfl, hoisted⟩ |
        ⟨other, fields, text, v, -, rfl, -, unique, described, inside, rfl⟩
    · exact absurd none contextual
    · obtain rfl : context = name := by
        rcases refers with same | same <;> cases same
        rfl
      simp only [isHoisted, Bool.and_eq_true, placed] at hoisted
      have found : s.hoisted.lookup context = some (some place) := by simpa using hoisted.1.2
      obtain ⟨newer, older, same, -⟩ := List.lookup_eq_some_iff.1 found
      exact before.hoisted.subset (same ▸ List.mem_append_right _ List.mem_cons_self)
    · obtain rfl : other = name := by
        rcases refers with same | same <;> cases same
        rfl
      refine before.hoisted.subset ?_
      exact placed ▸ (HoistsRecord.mk kind properties unique inside described).given

/-- The names of components are reserved, and nothing is in progress. -/
structure Prepared (schemas : Node) (number : Nat) (contract : Json) (t : Session) : Prop where
  document : schemas.Stands number contract
  reserves : ∀ name ∈ componentNames schemas, name ∈ t.registry.reserved
  idle : t.registry.building = []
  orderly : t.Orderly
  traced : Traced schemas (·.IsPartOf number contract) t

theorem mem_componentNames_of_schema {name : String} {schema : Schema}
    (parsed : componentSchema schemas name = .ok schema) : name ∈ componentNames schemas := by
  have held := holds_of_componentSchema parsed
  obtain ⟨node, found, -⟩ := except_bind_eq_ok.1 parsed
  refine mem_componentNames ?_ held
  unfold Node.required at found
  split at found
  · rename_i entries object
    exact ⟨entries, object⟩
  · cases found

namespace Prepared

/-- A translation of schemas of the document leaves all prepared for the next. -/
theorem derived {judgement : Judgement} (prepared : Prepared schemas number contract judgement.start)
    (derived : Derives schemas judgement)
    (fit : judgement.SchemasHave (·.IsPartOf number contract)) :
    Prepared schemas number contract judgement.finish where
  document := prepared.document
  reserves := by
    rw [derived.grows.reserved]
    exact prepared.reserves
  idle := derived.grows.building.trans prepared.idle
  orderly := derived.orderly prepared.orderly
  traced := derived.traced (inherited_isPartOf prepared.document) fit prepared.traced

/-- A name that a place was given is registered with the record of the object there. -/
theorem record_of_given (prepared : Prepared schemas number contract t) {name : String}
    {place : Place} (given : (name, some place) ∈ t.hoisted) {schema : Schema}
    (stands : schema.IsPartOf number contract) (placed : schema.facts.node.place = some place) :
    ∃ fields text, t.registry.get? name = some (.record (some name) fields text) ∧
      fields.map Field.name = schema.properties.map Prod.fst := by
  obtain ⟨type, found⟩ : ∃ type, t.registry.get? name = some type := by
    rcases Registry.contains_iff.1 (prepared.orderly.held given) with found | building
    · exact found
    · rw [prepared.idle] at building
      cases building
  have origin : Registered schemas (·.IsPartOf number contract) t name type :=
    prepared.traced _ (Registry.mem_entries_of_get? found)
  cases origin with
  | component builds before =>
      have reserved := prepared.reserves _ (mem_componentNames_of_schema builds.parsed)
      exact absurd reserved (prepared.orderly.free given)
  | @hoisted context text other s u fields fit hoists before =>
      have here : other.facts.node.place = some place :=
        prepared.orderly.once (before.hoisted.subset hoists.given) given
      have same : other = schema := fit.eq_of_place stands here placed
      subst same
      exact ⟨fields, text, found, hoists.inside.fieldNames⟩

end Prepared

/-- By the session, the inline object at a path of the document has become a reference to
the name, in a context that is not empty. -/
structure HoistedAt (schemas : Node) (number : Nat) (contract : Json) (t : Session)
    (path : List Nat) (name : String) (raw : Json) : Prop where
  here : contract.at? path = some raw
  became : ∃ schema context nilable, Schema.Parsed ⟨raw, some ⟨number, path⟩⟩ schema ∧
    schema.facts.kind = .object ∧ context ≠ "" ∧
    Became schemas t schema context (referenceType nilable name)

/-- The name is that of no component and is registered with a record that has the given
fields in their order. -/
structure OwnRecord (schemas : Node) (t : Session) (name : String) (fieldNames : List String) :
    Prop where
  apart : name ∉ componentNames schemas
  record : ∃ fields text, t.registry.get? name = some (.record (some name) fields text) ∧
    fields.map Field.name = fieldNames

namespace HoistedAt

variable {path : List Nat} {name : String} {raw : Json}

theorem given (hoisted : HoistedAt schemas number contract t path name raw) :
    (name, some ⟨number, path⟩) ∈ t.hoisted := by
  obtain ⟨schema, context, nilable, parsed, kind, contextual, became⟩ := hoisted.became
  exact (given_of_became became kind contextual (parsed.belowRoot kind)).2

theorem ownRecord (hoisted : HoistedAt schemas number contract t path name raw)
    (prepared : Prepared schemas number contract t) :
    OwnRecord schemas t name raw.propertyNames := by
  obtain ⟨schema, context, nilable, parsed, kind, -, -⟩ := hoisted.became
  have stands : schema.IsPartOf number contract := by
    refine ⟨_, ?_, parsed⟩
    rintro place ⟨⟩
    exact ⟨rfl, hoisted.here⟩
  refine ⟨fun member => ?_, ?_⟩
  · exact prepared.orderly.free hoisted.given (prepared.reserves name member)
  · rw [← parsed.propertyNames kind]
    exact prepared.record_of_given hoisted.given stands (parsed.belowRoot kind)

end HoistedAt

end Translation

open Translation

namespace Translator

variable {number : Nat} {contract : Json} {translator : Translator} {s t u : Session}

/-- Calls on a translator that all come back, in any order and number: from the one
session to the other. -/
inductive Calls (number : Nat) (contract : Json) (translator : Translator) :
    Session → Session → Prop where
  | none {s : Session} : Calls number contract translator s s
  | translated {s t u : Session} {node : Node} {context : String} {type : Ty}
      (earlier : Calls number contract translator s t) (part : node.Stands number contract)
      (returned : Run.Returns (translator.translateNode node context) t type u) :
      Calls number contract translator s u
  | component {s t u : Session} {name : String} {type : Ty}
      (earlier : Calls number contract translator s t)
      (returned : Run.Returns (translator.component name) t type u) :
      Calls number contract translator s u
  | components {s t u : Session} {done : Unit} (earlier : Calls number contract translator s t)
      (returned : Run.Returns translator.components t done u) :
      Calls number contract translator s u

/-- A new translator is prepared for calls. -/
theorem prepared_create (fresh : s.registry = {}) (new : s.hoisted = [])
    (created : Run.Returns (create (.root number contract)) s translator t) :
    Prepared translator.schemas number contract t := by
  obtain ⟨empty, idle, -⟩ := empty_create fresh created
  obtain ⟨found, -, names, listed, rfl⟩ := returns_create created
  refine ⟨Contract.stands_schemas Node.stands_root found, fun name member => ?_, idle,
    .of_new new, fun entry member => ?_⟩
  · unfold componentNames at member
    split at member
    · rename_i object
      rw [object] at listed
      cases (mapM_key_entries _).symm.trans listed
      obtain ⟨entry, among, own⟩ := List.mem_map.1 member
      refine List.mem_append_right _ ?_
      rw [List.filterMap_map]
      exact List.mem_filterMap.2 ⟨entry, among, congrArg some own⟩
    · cases member
  · rw [empty] at member
    cases member

/-- Calls leave the translator prepared for further calls. -/
theorem Calls.prepared (calls : Calls number contract translator s t)
    (sound : translator.ties.Sound translator.schemas)
    (prepared : Prepared translator.schemas number contract s) :
    Prepared translator.schemas number contract t := by
  induction calls with
  | none => exact prepared
  | translated earlier part returned ih =>
      obtain ⟨schema, parsed, derived⟩ := derives_translateNode sound returned
      exact ih.derived derived ⟨_, part, .of_parse parsed⟩
  | component earlier returned ih => exact ih.derived (sound.component returned) trivial
  | components earlier returned ih =>
      exact components_induction
        (fun prepared returned => prepared.derived (sound.component returned) trivial) returned ih

/-- Inline objects at different places of the document become references to different
names.  Neither is the name of a component, and each is registered with a record that has
the properties of its own object, in their order. -/
theorem hoisted_apart (fresh : s.registry = {}) (new : s.hoisted = [])
    (created : Run.Returns (create (.root number contract)) s translator t)
    (calls : Calls number contract translator t u) {path path' : List Nat} {name name' : String}
    {raw raw' : Json} (apart : path ≠ path')
    (first : HoistedAt translator.schemas number contract u path name raw)
    (second : HoistedAt translator.schemas number contract u path' name' raw') :
    name ≠ name' ∧ OwnRecord translator.schemas u name raw.propertyNames ∧
      OwnRecord translator.schemas u name' raw'.propertyNames := by
  have prepared : Prepared translator.schemas number contract u :=
    calls.prepared (sound_create created) (prepared_create fresh new created)
  refine ⟨?_, first.ownRecord prepared, second.ownRecord prepared⟩
  rintro rfl
  have same := prepared.orderly.once first.given second.given
  cases same
  exact apart rfl

/-- Two objects of one document. -/
def optionsContract : Json :=
  .object [("limits", .object [("properties", .object [("most", .object [])])]),
    ("filters", .object [("properties", .object [("tag", .object []), ("kind", .object [])])])]

/-- The first of the two objects. -/
def limits : Json := .object [("properties", .object [("most", .object [])])]

/-- The second of the two objects. -/
def filters : Json := .object [("properties", .object [("tag", .object []), ("kind", .object [])])]

/-- A new translator translates both objects in one context. -/
def translateOptions : Run (Translator × Ty × Ty) := do
  let translator ← create (.root 0 optionsContract)
  let first ← translator.translateNode ⟨limits, some ⟨0, [0]⟩⟩ "Options"
  return (translator, first, ← translator.translateNode ⟨filters, some ⟨0, [1]⟩⟩ "Options")

/-- What a call gives for an object of the document stays so. -/
theorem hoistedAt_of_translateNode {schemas : Node} {path : List Nat} {raw : Json}
    {context name : String} {schema : Schema} (sound : translator.ties.Sound schemas)
    (here : contract.at? path = some raw)
    (parsed : Schema.parse ⟨raw, some ⟨number, path⟩⟩ = .ok schema)
    (kind : schema.facts.kind = .object) (contextual : context ≠ "")
    (returned : Run.Returns (translator.translateNode ⟨raw, some ⟨number, path⟩⟩ context) s
      (.reference name) t) (before : t.Before u) :
    HoistedAt schemas number contract u path name raw := by
  obtain ⟨same, found, derived⟩ := derives_translateNode sound returned
  cases parsed.symm.trans found
  exact ⟨here, schema, context, false, .of_parse parsed, kind, contextual, s, t, derived, before⟩

theorem hoisted_apart_options : ∃ translator s t u,
    s.registry = {} ∧ s.hoisted = [] ∧
    Run.Returns (create (.root 0 optionsContract)) s translator t ∧
    Calls 0 optionsContract translator t u ∧ [0] ≠ [1] ∧
    HoistedAt translator.schemas 0 optionsContract u [0] "Options" limits ∧
    HoistedAt translator.schemas 0 optionsContract u [1] "Options_2" filters ∧
    "Options" ≠ "Options_2" ∧ OwnRecord translator.schemas u "Options" limits.propertyNames ∧
    OwnRecord translator.schemas u "Options_2" filters.propertyNames := by
  have ok : (translateOptions.passes {} fun found _ => found.2.1.same (.reference "Options") &&
      found.2.2.same (.reference "Options_2")) = true := by decide +kernel
  obtain ⟨⟨translator, first, second⟩, u, returned, named⟩ := Run.exists_returns_of ok
  obtain ⟨firstNamed, secondNamed⟩ := Bool.and_eq_true_iff.1 named
  obtain rfl := Ty.eq_of_same_reference firstNamed
  obtain rfl := Ty.eq_of_same_reference secondNamed
  unfold translateOptions at returned
  simp only [Run.returns_bind, Run.returns_pure, Prod.mk.injEq] at returned
  obtain ⟨translator, t, created, _, v, one, _, u, two, ⟨rfl, rfl, rfl⟩, rfl⟩ := returned
  have sound := sound_create created
  have stands : ∀ {path raw}, optionsContract.at? path = some raw →
      Node.Stands 0 optionsContract ⟨raw, some ⟨0, path⟩⟩ := by
    rintro path raw here _ ⟨⟩
    exact ⟨rfl, here⟩
  have firstHere : optionsContract.at? [0] = some limits := rfl
  have secondHere : optionsContract.at? [1] = some filters := rfl
  have calls : Calls 0 optionsContract translator t u :=
    .translated (.translated .none (stands firstHere) one) (stands secondHere) two
  obtain ⟨_, -, later⟩ := derives_translateNode sound two
  have firstHoisted : HoistedAt translator.schemas 0 optionsContract u [0] "Options" limits :=
    hoistedAt_of_translateNode sound firstHere rfl rfl (by decide) one later.grows.before
  have secondHoisted : HoistedAt translator.schemas 0 optionsContract u [1] "Options_2" filters :=
    hoistedAt_of_translateNode sound secondHere rfl rfl (by decide) two (.refl u)
  exact ⟨translator, {}, t, u, rfl, rfl, created, calls, by decide, firstHoisted, secondHoisted,
    hoisted_apart rfl rfl created calls (by decide) firstHoisted secondHoisted⟩

end Translator

end TypedContract
