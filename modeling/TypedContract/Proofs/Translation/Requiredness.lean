/-
# TypedContract.Proofs.Translation.Requiredness -- which fields of a merged record are required

A merge takes the fields of its members as they are, a later one in the place of an earlier
one of its name.  So the last typed member that declares a name says whether the merged
record requires it (`MergedInto.marked`), wherever that member has the declaration from.

All else that the schemas list as required (`Listed`) is never looked at: the `required` of
the `allOf` itself, that of a member without properties, that of an earlier member whose
property a later one declares again.  The record requires what is listed exactly where the
last word agrees (`required_of_listed_iff`); `weakened_by_merge` is a record that does not.
-/
import TypedContract.Proofs.Translation.Declaring
import TypedContract.Proofs.Translation.Order

namespace TypedContract

set_option autoImplicit false

namespace Translation

open Schema

variable {schemas : Node} {number : Nat} {contract : Json} {final : Session} {schema : Schema}
  {declared : List (String × Bool)} {fields : List (Field Ty)}

/-! ## Merged records -/

/-- By the session, the `allOf` has become a record with these fields: in place, or as a
component. -/
inductive MergedInto (schemas : Node) (t : Session) (schema : Schema) (fields : List (Field Ty)) :
    Prop where
  | inPlace {context text : String} {name : Option String}
      (became : Became schemas t schema context
        (withNil schema.facts.nullable (.record name fields text)))
  | component {name text : String} {record : Option String}
      (parsed : componentSchema schemas name = .ok schema)
      (found : t.registry.get? name = some (.record record fields text))

/-- A record that an `allOf` becomes in place has been merged, so each name comes once. -/
theorem nodup_of_combined (nullable : Bool) {facts : Facts} {name record : Option String}
    {types : List Ty} {s t : Session} {inner : Ty} {text : String}
    (merge : Derives schemas (.combined facts name types s inner t))
    (same : withNil nullable (.record record fields text) = withNil nullable inner) :
    (fields.map Field.name).Nodup := by
  cases merge with
  | merged inside records described =>
      have bare := congrArg bareMember same
      rw [bareMember_record, bareMember_record] at bare
      cases bare
      rw [mergeFields_eq_assemble]
      exact nodup_assemble _
  | wrapped =>
      unfold withNil at same
      split at same <;> split at same <;> cases same
  | refused =>
      have bare := congrArg bareMember same
      rw [bareMember_record, bareMember_withNil_self rfl rfl] at bare
      cases bare

/-- An `allOf` declares what its members declare together. -/
theorem DeclaresFields.members_of_allOf
    (declares : DeclaresFields schemas (.schema schema) declared)
    (kind : schema.facts.kind = .allOf) :
    DeclaresFields schemas (.members schema.members) declared := by
  cases declares with
  | object other => cases kind.symm.trans other
  | reference refers => cases kind.symm.trans refers.1
  | allOf _ inside => exact inside
  | union other => cases kind.symm.trans other

/-- A merged record has each name once and is marked as the members declare. -/
theorem MergedInto.marked (ended : Ended schemas number contract final)
    (stands : schema.IsPartOf number contract) (kind : schema.facts.kind = .allOf)
    (merged : MergedInto schemas final schema fields) : (fields.map Field.name).Nodup ∧
      ∃ declared, DeclaresFields schemas (.members schema.members) declared ∧
        MarkedAs fields declared := by
  cases merged with
  | inPlace became =>
      obtain ⟨s, u, derived, before⟩ := became
      have start := derived.grows.before.trans before
      have leads :=
        (derived.leadsToRecords (ended.reserves_before start) (ended.rightly_before start)).2
      obtain ⟨declared, declares⟩ :=
        (leads.member (by rw [bareMember_record]; trivial)).declaresFields
      obtain ⟨inner, same, bare⟩ := derived.of_schema
      obtain ⟨types, v, -, merge⟩ := bare.of_allOf kind
      have declaredAs := (declares.becomesMarked ended stands).type derived before
      rw [bareMember_record] at declaredAs
      exact ⟨nodup_of_combined _ merge same, declared, declares.members_of_allOf kind,
        declaredAs.resolved (.here nofun) rfl⟩
  | component parsed found =>
      have held := holds_of_componentSchema parsed
      obtain ⟨declared, component, parsed', declares⟩ :=
        (ended.rightly _ _ found held trivial).declaresFields
      cases parsed.symm.trans parsed'
      obtain ⟨component, s, u, parsed', derived, before⟩ := ended.chronicle.component found held
      cases parsed.symm.trans parsed'
      obtain ⟨types, v, -, merge⟩ := derived.named_allOf kind
      have declaredAs := (declares.becomesMarked ended stands).named derived before
      exact ⟨nodup_of_combined false merge rfl, declared,
        declares.members_of_allOf kind, declaredAs.resolved (.here nofun) rfl⟩

/-! ## What is listed as required -/

/-- The schema lists the name as required, or a member or the component that it refers to
does. -/
inductive Listed (schemas : Node) (name : String) : Schema → Prop where
  | own {schema : Schema} (listed : schema.facts.required.any (Json.same (.str name)) = true) :
      Listed schemas name schema
  | member {schema member : Schema} (kind : schema.facts.kind = .allOf)
      (among : member ∈ schema.members) (listed : Listed schemas name member) :
      Listed schemas name schema
  | reference {schema component : Schema} {other : String} (refers : RefersTo schemas schema other)
      (parsed : componentSchema schemas other = .ok component)
      (listed : Listed schemas name component) : Listed schemas name schema

end Translation

namespace Translator

open Translation

variable {number : Nat} {contract : Json} {translator : Translator} {s : Session} {schema : Schema}
  {fields : List (Field Ty)}

/-- The members of a merged `allOf` declare one list of names, and the last word of it on a
name says whether the field is required.  So the record requires all that the schemas list
exactly when the last typed member that declares a listed name requires it. -/
theorem required_of_listed_iff (stands : SessionOf number contract translator s)
    (part : schema.IsPartOf number contract) (kind : schema.facts.kind = .allOf)
    (merged : MergedInto translator.schemas s schema fields) :
    (∃ declared, DeclaresFields translator.schemas (.members schema.members) declared) ∧
    ∀ declared, DeclaresFields translator.schemas (.members schema.members) declared →
      (∀ field ∈ fields, lastMark field.name declared = some field.required) ∧
      ((∀ field ∈ fields, Listed translator.schemas field.name schema → field.required = true) ↔
        ∀ field ∈ fields, Listed translator.schemas field.name schema →
          lastMark field.name declared = some true) := by
  obtain ⟨distinct, declared, declares, marked⟩ := merged.marked stands.ended part kind
  have last : ∀ field ∈ fields, lastMark field.name declared = some field.required := by
    intro field member
    rw [← marked field.name, (latest_eq_some_iff distinct).2 ⟨member, rfl⟩]
    rfl
  refine ⟨⟨declared, declares⟩, fun other declares' => ?_⟩
  obtain rfl := declares.unique declares'
  refine ⟨last, forall_congr' fun field => forall_congr' fun member => ?_⟩
  rw [last field member, Option.some_inj]

/-- An object with texts, some of them required. -/
def texts (names required : List String) : Json :=
  .object [("type", .str "object"),
    ("properties", .object (names.map fun name => (name, .object [("type", .str "string")]))),
    ("required", .list (required.map .str))]

/-- A document with one `allOf`. -/
def merging (members : List Json) (required : List String) : Json :=
  contractOf [("Pet", .object [("allOf", .list members), ("required", .list (required.map .str))])]

theorem schemas_of_merging {members : List Json} {required : List String}
    (returned : Run.Returns (registerAll (.root 0 (merging members required))) {} translator s) :
    SessionOf 0 (merging members required) translator s ∧ translator.schemas =
      ⟨.object [("Pet", .object [("allOf", .list members), ("required", .list (required.map .str))])],
        some ⟨0, [0, 0]⟩⟩ := by
  obtain ⟨u, done, created, registered⟩ := returns_registerAll returned
  exact ⟨.components rfl rfl created registered, Except.ok.inj (returns_create created).1.symm⟩

/-- The record that the `allOf` has become, with the marks of its fields. -/
theorem exists_merged (members : List Json) (required : List String)
    (marks : List (String × Bool)) (ok : ((registerAll (.root 0 (merging members required))).passes {} fun _ t =>
      (t.registry.get? "Pet").any fun type => type.isRecord && (recordFields type).map mark == marks)
        = true) :
    ∃ translator s record fields text,
      Run.Returns (registerAll (.root 0 (merging members required))) {} translator s ∧
      s.registry.get? "Pet" = some (.record record fields text) ∧ fields.map mark = marks := by
  obtain ⟨translator, s, returned, left⟩ := Run.exists_returns_of ok
  obtain ⟨type, found, left⟩ := (Option.any_eq_true ..).1 left
  rw [Bool.and_eq_true, beq_iff_eq] at left
  cases type with
  | record record fields text => exact ⟨translator, s, record, fields, text, returned, found, left.2⟩
  | _ => cases left.1

/-- Members that each require their own fields. -/
def ownTexts : List Json := [texts ["name", "tag"] ["name"], texts ["age"] ["age"]]

theorem required_of_listed_iff_own : ∃ translator s schema fields declared,
    SessionOf 0 (merging ownTexts []) translator s ∧ schema.IsPartOf 0 (merging ownTexts []) ∧
    schema.facts.kind = .allOf ∧ MergedInto translator.schemas s schema fields ∧
    DeclaresFields translator.schemas (.members schema.members) declared ∧
    fields.map mark = [("name", true), ("tag", false), ("age", true)] ∧
    ∀ field ∈ fields, lastMark field.name declared = some field.required := by
  obtain ⟨translator, s, record, fields, text, returned, found, marks⟩ :=
    exists_merged ownTexts [] [("name", true), ("tag", false), ("age", true)] (by decide +kernel)
  obtain ⟨stands, schemas⟩ := schemas_of_merging returned
  obtain ⟨schema, parsed, kind⟩ : ∃ schema, componentSchema translator.schemas "Pet" = .ok schema ∧
      schema.facts.kind = .allOf := by
    rw [schemas]
    exact ⟨_, rfl, rfl⟩
  have part := isPartOf_component stands.ended.document parsed
  have merged : MergedInto translator.schemas s schema fields := .component parsed found
  obtain ⟨⟨declared, declares⟩, each⟩ := required_of_listed_iff stands part kind merged
  exact ⟨translator, s, schema, fields, declared, stands, part, kind, merged, declares, marks,
    (each declared declares).1⟩

/-- A member that requires a name, a later one that declares it again and one that only lists
another. -/
def weakening : List Json :=
  [texts ["name"] ["name"], texts ["name", "tag"] [], .object [("required", .list [.str "tag"])]]

/-- Both fields of the record are listed as required, one by the `allOf` itself and by its first
member, the other by a member without properties, and the record requires neither. -/
theorem weakened_by_merge : ∃ translator s schema fields,
    SessionOf 0 (merging weakening ["name"]) translator s ∧ schema.facts.kind = .allOf ∧
    MergedInto translator.schemas s schema fields ∧
    fields.map mark = [("name", false), ("tag", false)] ∧
    ∀ field ∈ fields, Listed translator.schemas field.name schema := by
  obtain ⟨translator, s, record, fields, text, returned, found, marks⟩ :=
    exists_merged weakening ["name"] [("name", false), ("tag", false)] (by decide +kernel)
  obtain ⟨stands, schemas⟩ := schemas_of_merging returned
  obtain ⟨schema, parsed, kind, own, listed⟩ : ∃ schema,
      componentSchema translator.schemas "Pet" = .ok schema ∧ schema.facts.kind = .allOf ∧
      schema.facts.required.any (Json.same (.str "name")) = true ∧
      ∃ member ∈ schema.members, member.facts.required.any (Json.same (.str "tag")) = true := by
    rw [schemas]
    exact ⟨_, rfl, rfl, rfl, _, List.mem_cons_of_mem _ (List.mem_cons_of_mem _ List.mem_cons_self), rfl⟩
  obtain ⟨member, among, tag⟩ := listed
  refine ⟨translator, s, schema, fields, stands, kind, .component parsed found, marks, ?_⟩
  intro field inside
  have named : mark field ∈ [("name", false), ("tag", false)] := marks ▸ List.mem_map_of_mem inside
  rcases List.mem_cons.1 named with same | named
  · have name : field.name = "name" := congrArg Prod.fst same
    rw [name]
    exact .own own
  · have name : field.name = "tag" := congrArg Prod.fst (List.mem_singleton.1 named)
    rw [name]
    exact .member kind among (.own tag)

end Translator

end TypedContract
