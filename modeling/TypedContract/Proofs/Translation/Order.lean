/-
# TypedContract.Proofs.Translation.Order -- components in another order

Documents that list the same components in different orders have the same equations.
So when each component, built anew after all is registered, has its registered type again
(`Translator.Settled`), the order does not matter: the types registered in another order
are the same exactly if they have settled too (`Translator.agrees_iff_settled`).

They need not have settled.  A merge that meets a component while that component is being
built anew for another merge takes it for no record, and whatever is registered
meanwhile keeps what it got then (`Translator.components_depend_on_order`).
-/
import TypedContract.Proofs.Translation.Agreement
import TypedContract.Proofs.Translation.Faithful

namespace TypedContract

set_option autoImplicit false

/-! ## Permuted components -/

namespace Json

theorem find?_eq_some_iff {entries : List (String × Json)} {name : String} {value : Json}
    (distinct : (entries.map Prod.fst).Nodup) :
    find? name entries = some value ↔ (name, value) ∈ entries := by
  refine ⟨mem_of_find?, fun member => ?_⟩
  induction entries with
  | nil => cases member
  | cons entry rest ih =>
      rw [List.map_cons, List.nodup_cons] at distinct
      unfold find?
      rcases List.mem_cons.1 member with rfl | inside
      · rw [if_pos (beq_self_eq_true name)]
      · have apart : ¬ (entry.1 == name) = true := fun same => by
          rw [eq_of_beq same] at distinct
          exact distinct.1 (List.mem_map_of_mem inside)
        rw [if_neg apart]
        exact ih distinct.2 inside

/-- Entries with distinct keys are found in any order. -/
theorem find?_perm {entries entries' : List (String × Json)} (permuted : entries.Perm entries')
    (distinct : (entries.map Prod.fst).Nodup) (name : String) :
    find? name entries = find? name entries' := by
  refine Option.ext fun value => ?_
  rw [find?_eq_some_iff distinct, find?_eq_some_iff ((permuted.map Prod.fst).nodup_iff.1 distinct),
    permuted.mem_iff]

end Json

namespace Translation

open Schema

variable {schemas base : Node}

theorem componentSchema_unplaced (name : String) :
    componentSchema schemas.unplaced name = unplaced <$> componentSchema schemas name := by
  unfold componentSchema
  rw [Node.required_unplaced, bind_map_left, map_bind]
  exact bind_congr fun _ => parse_unplaced

theorem required_free {entries : List (String × Json)} {name : String} :
    (Node.free (.object entries)).required name =
      match Json.find? name entries with
      | some value => .ok (.free value)
      | none => .error (.missingKey name) := by
  cases found : Json.find? name entries with
  | none =>
      cases here : Json.position? name entries <;>
        simp only [Node.required, Node.free, Node.find?, found, here]
  | some value =>
      obtain ⟨position, here⟩ := Json.exists_position? found
      simp only [Node.required, Node.free, Node.find?, Node.child, found, here, Option.map_none]

/-- Components that are listed in any order have the same schemas, wherever they stand. -/
theorem sameSchemas_of_perm {entries entries' : List (String × Json)}
    (object : schemas.value = .object entries) (permuted : entries.Perm entries')
    (distinct : (entries.map Prod.fst).Nodup) : SameSchemas schemas (.free (.object entries')) where
  holds := by
    intro name
    rw [object]
    exact congrArg (fun found => Except.ok (Option.isSome found))
      (Json.find?_perm permuted distinct name).symm
  component := by
    intro name
    rw [← componentSchema_unplaced]
    unfold componentSchema Node.unplaced
    rw [object, required_free, required_free, Json.find?_perm permuted distinct]

/-- The role of the schema wherever it stands. -/
def Role.unplaced : Role → Role
  | .plain schema => .plain schema.unplaced
  | .member schema => .member schema.unplaced
  | .component name => .component name
  | .members inside => .members (inside.map Schema.unplaced)

theorem filter_unplaced {members : List Schema} : (members.map unplaced).filter (!·.isNote) =
    (members.filter (!·.isNote)).map unplaced := by
  rw [List.filter_map]
  exact congrArg _ (List.filter_congr fun member _ => congrArg not isNote_unplaced)

section

variable {schema : Schema} {kind : Kind}

theorem kind_unplaced : schema.unplaced.facts.kind = schema.facts.kind := by
  rw [facts_unplaced]
  rfl

theorem nullable_unplaced : schema.unplaced.facts.nullable = schema.facts.nullable := by
  rw [facts_unplaced]
  rfl

theorem properties_unplaced_eq_nil : schema.unplaced.properties = [] ↔ schema.properties = [] := by
  rw [properties_unplaced]
  exact List.map_eq_nil_iff

end

/-- What stands for a record does so wherever it stands. -/
theorem SameSchemas.recordlike (reads : SameSchemas schemas base) {role : Role}
    (recordlike : Recordlike schemas role) : Recordlike base role.unplaced := by
  have parsed {name : String} {schema : Schema}
      (found : componentSchema schemas name = .ok schema) :
      componentSchema base name = .ok schema.unplaced := by
    rw [reads.component, found]
    rfl
  have leads {schema : Schema} {name : String}
      (found : Translation.target? schemas schema.facts = .ok (some name)) :
      Translation.target? base schema.unplaced.facts = .ok (some name) := by
    rw [facts_unplaced, reads.target?, found]
  induction recordlike with
  | object kind properties some_ =>
      exact .object (kind_unplaced.trans kind) (mt properties_unplaced_eq_nil.1 properties)
        (nullable_unplaced.trans some_)
  | reference kind found some_ atUse inside ih =>
      exact .reference (kind_unplaced.trans kind) (leads found) (nullable_unplaced.trans some_)
        ((reads.admitsNilAtUse _).trans atUse) ih
  | allOf kind some_ members ih =>
      exact .allOf (kind_unplaced.trans kind) (nullable_unplaced.trans some_)
        (members_unplaced ▸ ih)
  | objectMember kind properties =>
      exact .objectMember (kind_unplaced.trans kind) (mt properties_unplaced_eq_nil.1 properties)
  | referenceMember kind found inside ih =>
      exact .referenceMember (kind_unplaced.trans kind) (leads found) ih
  | allOfMember kind members ih =>
      exact .allOfMember (kind_unplaced.trans kind) (members_unplaced ▸ ih)
  | unionMember kind single some_ plain ih =>
      exact .unionMember (kind_unplaced.trans kind) (by rw [members_unplaced, single]; rfl)
        (nullable_unplaced.trans some_) ih
  | componentObject found kind properties =>
      exact .componentObject (parsed found) (kind_unplaced.trans kind)
        (mt properties_unplaced_eq_nil.1 properties)
  | componentMerge found kind members ih =>
      exact .componentMerge (parsed found) (kind_unplaced.trans kind) (members_unplaced ▸ ih)
  | componentAlias found plain ih => exact .componentAlias (parsed found) ih
  | members typed each ih =>
      refine .members ?_ ?_
      · rw [filter_unplaced]
        exact mt List.map_eq_nil_iff.1 typed
      · intro member among
        rw [filter_unplaced] at among
        obtain ⟨own, inside, rfl⟩ := List.mem_map.1 among
        exact ih own inside

section

variable {role : Role}

theorem Role.unplaced_eq_plain {schema : Schema} (same : role.unplaced = .plain schema) :
    ∃ own, role = .plain own ∧ own.unplaced = schema := by
  cases role with
  | plain own => exact ⟨own, rfl, Role.plain.inj same⟩
  | _ => cases same

theorem Role.unplaced_eq_member {schema : Schema} (same : role.unplaced = .member schema) :
    ∃ own, role = .member own ∧ own.unplaced = schema := by
  cases role with
  | member own => exact ⟨own, rfl, Role.member.inj same⟩
  | _ => cases same

theorem Role.unplaced_eq_component {name : String} (same : role.unplaced = .component name) :
    role = .component name := by
  cases role with
  | component own => exact same
  | _ => cases same

theorem Role.unplaced_eq_members {members : List Schema} (same : role.unplaced = .members members) :
    ∃ own, role = .members own ∧ own.map Schema.unplaced = members := by
  cases role with
  | members own => exact ⟨own, rfl, Role.members.inj same⟩
  | _ => cases same

end

/-- The schema of a component stands where it stands in the other document. -/
theorem SameSchemas.exists_componentSchema (reads : SameSchemas schemas base) {name : String}
    {schema : Schema}
    (found : componentSchema base name = .ok schema) :
    ∃ own, componentSchema schemas name = .ok own ∧ schema = own.unplaced := by
  rw [reads.component] at found
  cases own : componentSchema schemas name with
  | error fault =>
      rw [own] at found
      cases found
  | ok schema =>
      rw [own] at found
      exact ⟨schema, rfl, (Except.ok.inj found).symm⟩

/-- What stands for a record wherever it stands does so where it stands. -/
theorem SameSchemas.recordlike_of (reads : SameSchemas schemas base) {role : Role}
    (recordlike : Recordlike base role.unplaced) : Recordlike schemas role := by
  have leads {schema : Schema} {name : String}
      (found : Translation.target? base schema.unplaced.facts = .ok (some name)) :
      Translation.target? schemas schema.facts = .ok (some name) := by
    rw [← reads.target?, ← facts_unplaced, found]
  -- the role must be an index of its own for the induction
  generalize same : role.unplaced = unplaced at recordlike
  induction recordlike generalizing role with
  | object kind properties some_ =>
      obtain ⟨own, rfl, rfl⟩ := Role.unplaced_eq_plain same
      exact .object (kind_unplaced.symm.trans kind)
        (mt properties_unplaced_eq_nil.2 properties) (nullable_unplaced.symm.trans some_)
  | reference kind found some_ atUse inside ih =>
      obtain ⟨own, rfl, rfl⟩ := Role.unplaced_eq_plain same
      exact .reference (kind_unplaced.symm.trans kind) (leads found)
        (nullable_unplaced.symm.trans some_) ((reads.admitsNilAtUse _).symm.trans atUse) (ih rfl)
  | allOf kind some_ members ih =>
      obtain ⟨own, rfl, rfl⟩ := Role.unplaced_eq_plain same
      exact .allOf (kind_unplaced.symm.trans kind) (nullable_unplaced.symm.trans some_)
        (ih (congrArg Role.members members_unplaced.symm))
  | objectMember kind properties =>
      obtain ⟨own, rfl, rfl⟩ := Role.unplaced_eq_member same
      exact .objectMember (kind_unplaced.symm.trans kind)
        (mt properties_unplaced_eq_nil.2 properties)
  | referenceMember kind found inside ih =>
      obtain ⟨own, rfl, rfl⟩ := Role.unplaced_eq_member same
      exact .referenceMember (kind_unplaced.symm.trans kind) (leads found) (ih rfl)
  | allOfMember kind members ih =>
      obtain ⟨own, rfl, rfl⟩ := Role.unplaced_eq_member same
      exact .allOfMember (kind_unplaced.symm.trans kind)
        (ih (congrArg Role.members members_unplaced.symm))
  | unionMember kind single some_ plain ih =>
      obtain ⟨own, rfl, rfl⟩ := Role.unplaced_eq_member same
      rw [members_unplaced] at single
      obtain ⟨only, inside, rfl⟩ := List.map_eq_singleton_iff.1 single
      exact .unionMember (kind_unplaced.symm.trans kind) inside
        (nullable_unplaced.symm.trans some_) (ih rfl)
  | componentObject found kind properties =>
      obtain rfl := Role.unplaced_eq_component same
      obtain ⟨own, here, rfl⟩ := reads.exists_componentSchema found
      exact .componentObject here (kind_unplaced.symm.trans kind)
        (mt properties_unplaced_eq_nil.2 properties)
  | componentMerge found kind members ih =>
      obtain rfl := Role.unplaced_eq_component same
      obtain ⟨own, here, rfl⟩ := reads.exists_componentSchema found
      exact .componentMerge here (kind_unplaced.symm.trans kind)
        (ih (congrArg Role.members members_unplaced.symm))
  | componentAlias found plain ih =>
      obtain rfl := Role.unplaced_eq_component same
      obtain ⟨own, here, rfl⟩ := reads.exists_componentSchema found
      exact .componentAlias here (ih rfl)
  | members typed each ih =>
      obtain ⟨own, rfl, rfl⟩ := Role.unplaced_eq_members same
      rw [filter_unplaced] at typed
      refine .members (mt List.map_eq_nil_iff.2 typed) fun member among => ?_
      exact ih _ (filter_unplaced ▸ List.mem_map_of_mem among) rfl

/-! ## Solutions wherever the components stand -/

section

variable {registry : Registry} (reads : SameSchemas schemas base)

include reads

theorem SameSchemas.leadsToRecord_of {type : Ty} (leads : LeadsToRecord base type) :
    LeadsToRecord schemas type := by
  cases type with
  | record => trivial
  | reference name =>
      exact fun held =>
        @SameSchemas.recordlike_of _ _ reads (.component name) (leads (reads.holds name ▸ held))
  | _ => cases leads

/-- A run leaves the same wherever the components stand. -/
theorem SameSchemas.outcome (object : ∃ entries, base.value = .object entries)
    (outcome : Outcome schemas registry) : Outcome base registry where
  object := object
  idle := outcome.idle
  registered := fun name held => outcome.registered name (reads.holds name ▸ held)
  reserves := fun name held => outcome.reserves name (reads.holds name ▸ held)
  rightly := fun name type found held leads => reads.recordlike
    (outcome.rightly name type found (reads.holds name ▸ held) (reads.leadsToRecord_of leads))

/-- A registry solves the equations wherever the components stand. -/
theorem SameSchemas.solves_iff : Solves base registry ↔ Solves schemas registry := by
  constructor
  · intro solves name schema parsed
    obtain ⟨type, anew, found, yields, same⟩ :=
      solves name schema.unplaced (by rw [reads.component, parsed]; rfl)
    exact ⟨type, anew, found, reads.namedOver ▸ yields, same⟩
  · intro solves name schema parsed
    rw [reads.component] at parsed
    cases own : componentSchema schemas name with
    | error fault =>
        rw [own] at parsed
        cases parsed
    | ok schema' =>
        rw [own] at parsed
        cases parsed
        obtain ⟨type, anew, found, yields, same⟩ := solves name schema' own
        exact ⟨type, anew, found, reads.namedOver.trans yields, same⟩

end

/-- All that is registered are components. -/
def OnlyComponents (schemas : Node) (registry : Registry) : Prop :=
  ∀ name type, registry.get? name = some type →
    ∃ schema, componentSchema schemas name = .ok schema

theorem SameSchemas.onlyComponents (reads : SameSchemas schemas base) {registry : Registry}
    (only : OnlyComponents schemas registry) : OnlyComponents base registry := by
  intro name type found
  obtain ⟨schema, parsed⟩ := only name type found
  exact ⟨schema.unplaced, by rw [reads.component, parsed]; rfl⟩

/-- Two solutions that register the components alone are the same. -/
theorem Solves.agrees {registry other : Registry} (solves : Solves schemas registry)
    (solves' : Solves schemas other) (outcome : Outcome schemas registry)
    (outcome' : Outcome schemas other) (only : OnlyComponents schemas registry)
    (only' : OnlyComponents schemas other) : registry.Agrees other := by
  intro name
  cases found : registry.get? name with
  | some type =>
      obtain ⟨schema, parsed⟩ := only name type found
      obtain ⟨type', found'⟩ := outcome'.registered name (holds_of_componentSchema parsed)
      rw [found', Option.map_some, Option.map_some,
        solves.unique solves' outcome outcome' parsed found found']
  | none =>
      cases found' : other.get? name with
      | none => rfl
      | some type' =>
          obtain ⟨schema, parsed⟩ := only' name type' found'
          obtain ⟨type, known⟩ := outcome.registered name (holds_of_componentSchema parsed)
          cases found.symm.trans known

end Translation

namespace Translator

open Translation

variable {number : Nat} {contract : Json} {translator : Translator} {s t : Session}

/-! ## Registering all components -/

/-- The translator of a document, which has registered all its components. -/
def registerAll (document : Node) : Run Translator := do
  let translator ← create document
  translator.components
  return translator

/-- Each registered component, built anew, has its registered type again, but for the
reasons of unknown types, and nothing is hoisted for it. -/
def Settled (translator : Translator) (s : Session) : Prop :=
  ∀ name type, s.registry.get? name = some type →
    ∃ anew t, Run.Returns (translator.ties.rebuild name) s anew t ∧
      t.hoisted = s.hoisted ∧ anew.unreasoned = type.unreasoned

theorem returns_registerAll {document : Node}
    (returned : Run.Returns (registerAll document) s translator t) :
    ∃ u done, Run.Returns (create document) s translator u ∧
      Run.Returns translator.components u done t := by
  unfold registerAll at returned
  simp only [Run.returns_bind, Run.returns_pure] at returned
  obtain ⟨made, u, created, done, v, registered, rfl, rfl⟩ := returned
  exact ⟨u, done, created, registered⟩

/-- Each name that is registered one by one is registered in the end. -/
theorem contains_of_forM {schemas : Node} (sound : translator.ties.Sound schemas)
    {names : List Json} {done : PUnit}
    (registered : Run.Returns (names.forM fun name => do
      let _ ← translator.component (← Run.lift name.text)) s done t) :
    s.Grows t ∧ ∀ name, Json.str name ∈ names → t.registry.contains name = true := by
  induction names generalizing s with
  | nil =>
      obtain rfl := Run.returns_forM_nil.1 registered
      exact ⟨.refl s, fun name member => absurd member List.not_mem_nil⟩
  | cons first rest ih =>
      obtain ⟨nothing, u, one, others⟩ := Run.returns_forM_cons.1 registered
      simp only [Run.returns_bind, Run.returns_lift, Run.returns_pure] at one
      obtain ⟨key, _, ⟨text, rfl⟩, type, v, own, -, rfl⟩ := one
      obtain ⟨grows, contains⟩ := ih others
      have derived : Derives schemas (.component key s type v) := sound.component own
      refine ⟨derived.grows.trans grows, fun name member => ?_⟩
      rcases List.mem_cons.1 member with rfl | later
      · cases text
        exact grows.contains derived.contains
      · exact contains name later

/-- Once nothing is in progress, each component that was asked for is registered. -/
theorem registered_components {done : Unit} {name : String}
    (sound : translator.ties.Sound translator.schemas)
    (object : ∃ entries, translator.schemas.value = .object entries)
    (registered : Run.Returns translator.components s done t) (idle : t.registry.building = [])
    (held : translator.schemas.value.holds name = .ok true) :
    ∃ type, t.registry.get? name = some type := by
  unfold components at registered
  obtain ⟨names, v, listed, registered⟩ := Run.returns_bind.1 registered
  obtain ⟨listed, rfl⟩ := Run.returns_lift.1 listed
  obtain ⟨entries, object⟩ := object
  rw [object] at listed held
  cases listed
  obtain ⟨value, found⟩ := Option.isSome_iff_exists.1 (Except.ok.inj held)
  have contains := (contains_of_forM sound registered).2 name
    (List.mem_map_of_mem (Json.mem_of_find? found))
  rw [Registry.contains_iff, idle] at contains
  exact contains.resolve_right List.not_mem_nil

/-- A run that registers all components leaves them registered and nothing in progress. -/
theorem outcome_registerAll
    (returned : Run.Returns (registerAll (.root number contract)) {} translator t) :
    Ended translator.schemas number contract t ∧ Outcome translator.schemas t.registry := by
  obtain ⟨u, done, created, registered⟩ := returns_registerAll returned
  have ended : Ended translator.schemas number contract t :=
    (SessionOf.components rfl rfl created registered).ended
  have object := object_of_components created registered
  exact ⟨ended, object, ended.idle,
    fun name => registered_components (sound_create created) object registered ended.idle,
    ended.reserves, ended.rightly⟩

/-- A run that hoists nothing registers components alone. -/
theorem onlyComponents_of_unhoisted {schemas : Node}
    (ended : Ended schemas number contract s) (unhoisted : s.hoisted = []) :
    OnlyComponents schemas s.registry := by
  intro name type found
  rcases ended.chronicle.known found with held | ⟨place, given⟩
  · obtain ⟨schema, -, -, parsed, -⟩ := ended.chronicle.component found held
    exact ⟨schema, parsed⟩
  · rw [unhoisted] at given
    cases given

/-- A run that hoists nothing has settled exactly if it has solved the equations. -/
theorem settled_iff_solves
    (returned : Run.Returns (registerAll (.root number contract)) {} translator s)
    (unhoisted : s.hoisted = []) :
    Settled translator s ↔ Solves translator.schemas s.registry := by
  obtain ⟨u, done, created, -⟩ := returns_registerAll returned
  obtain ⟨ended, outcome⟩ := outcome_registerAll returned
  have sound := sound_create created
  have finished : Finished translator.schemas s :=
    ⟨ended.idle, unhoisted, outcome.registered⟩
  constructor
  · intro settled name schema parsed
    obtain ⟨type, found⟩ := outcome.registered name (holds_of_componentSchema parsed)
    obtain ⟨anew, t, rebuilt, none, same⟩ := settled name type found
    obtain ⟨schema', parsed', derived⟩ := sound.rebuild rebuilt
    cases parsed.symm.trans parsed'
    exact ⟨type, anew, found, (derived.over finished (none.trans unhoisted)).2, same⟩
  · intro solves name type found
    obtain ⟨schema, parsed⟩ := onlyComponents_of_unhoisted ended unhoisted name type found
    obtain ⟨type', anew, found', yields, same⟩ := solves name schema parsed
    cases found.symm.trans found'
    obtain ⟨n, bound⟩ := exists_componentBound translator.schemas
    obtain ⟨t, later, -, rebuilt⟩ := gives_rebuild outcome.object parsed yields s finished rfl
    refine ⟨anew, t, ?_, later.unhoisted.trans unhoisted.symm, same⟩
    rw [(returns_create created).2.1, bound]
    exact rebuilt

/-- When one of two runs over the same components in different orders has settled, both
register the same types, but for the reasons of unknown types, exactly if both have. -/
theorem agrees_iff_settled {number' : Nat} {contract' : Json} {translator' : Translator}
    {s' : Session} {entries entries' : List (String × Json)}
    (returned : Run.Returns (registerAll (.root number contract)) {} translator s)
    (returned' : Run.Returns (registerAll (.root number' contract')) {} translator' s')
    (components : translator.schemas.value = .object entries)
    (components' : translator'.schemas.value = .object entries')
    (permuted : entries.Perm entries') (distinct : (entries.map Prod.fst).Nodup)
    (unhoisted : s.hoisted = []) (unhoisted' : s'.hoisted = [])
    (either : Settled translator s ∨ Settled translator' s') :
    s.registry.Agrees s'.registry ↔ Settled translator s ∧ Settled translator' s' := by
  obtain ⟨ended, outcome⟩ := outcome_registerAll returned
  obtain ⟨ended', outcome'⟩ := outcome_registerAll returned'
  have distinct' : (entries'.map Prod.fst).Nodup :=
    (permuted.map Prod.fst).nodup_iff.1 distinct
  -- both runs are compared over one list of the components that stands nowhere
  have reads : SameSchemas translator.schemas (.free (.object entries')) :=
    sameSchemas_of_perm components permuted distinct
  have reads' : SameSchemas translator'.schemas (.free (.object entries')) :=
    sameSchemas_of_perm components' (.refl _) distinct'
  rw [settled_iff_solves returned unhoisted, settled_iff_solves returned' unhoisted',
    ← reads.solves_iff, ← reads'.solves_iff] at *
  constructor
  · intro agrees
    rcases either with solves | solves'
    · exact ⟨solves, solves.of_agrees agrees⟩
    · exact ⟨solves'.of_agrees agrees.symm, solves'⟩
  · rintro ⟨solves, solves'⟩
    exact solves.agrees solves' (reads.outcome ⟨_, rfl⟩ outcome)
      (reads'.outcome ⟨_, rfl⟩ outcome')
      (reads.onlyComponents (onlyComponents_of_unhoisted ended unhoisted))
      (reads'.onlyComponents (onlyComponents_of_unhoisted ended' unhoisted'))

/-- A document with these components alone. -/
def contractOf (components : List (String × Json)) : Json :=
  .object [("components", .object [("schemas", .object components)])]

theorem components_of_registerAll {first : String × Json} {rest : List (String × Json)}
    (returned : Run.Returns (registerAll (.root 0 (contractOf (first :: rest)))) {} translator s) :
    translator.schemas.value = .object (first :: rest) := by
  obtain ⟨u, done, created, -⟩ := returns_registerAll returned
  have found := (returns_create created).1
  have held : Contract.schemas (.root 0 (contractOf (first :: rest))) =
      .ok ⟨.object (first :: rest), some ⟨0, [0, 0]⟩⟩ := rfl
  rw [← Except.ok.inj (held.symm.trans found)]

/-- A reference to a component. -/
def referenceTo (name : String) : Json :=
  .object [("$ref", .str ("#/components/schemas/" ++ name))]

/-- A record whose fields refer to components. -/
def recordTo (fields : List (String × String)) : Json :=
  .object [("type", .str "object"),
    ("properties", .object (fields.map fun field => (field.1, referenceTo field.2)))]

/-- A component with a text added. -/
def extending (name text : String) : Json :=
  .object [("allOf", .list [referenceTo name, .object [("type", .str "object"),
    ("properties", .object [(text, .object [("type", .str "string")])])]])]

/-- A record and a component that extends it, each leading back to the other. -/
def backReference : List (String × Json) :=
  [("Base", recordTo [("next", "Derived")]), ("Derived", extending "Base" "extra")]

/-- What is registered for the two: the extending record is complete first. -/
def backReferenceSession : Session :=
  let next : Field Ty := { name := "next", type := .reference "Derived" }
  let extra : Field Ty := { name := "extra", type := .primitive (.of .string .null) }
  {
    registry := {
      entries := [("Derived", .record (some "Derived") [next, extra] ""),
        ("Base", .record (some "Base") [next] "")]
      reserved := ["Base", "Derived"]
    }
    log := [⟨.debug, .registry, "registered type Derived"⟩,
      ⟨.debug, .registry, "registered type Base"⟩]
  }

/-- The translator of the two. -/
def backReferenceTranslator : Translator :=
  ⟨Ties.within ⟨.object backReference, some ⟨0, [0, 0]⟩⟩ 6⟩

set_option maxRecDepth 10000 in
theorem settled_backReference : Settled backReferenceTranslator backReferenceSession := by
  intro name type found
  have rebuilt : Run.Returns (backReferenceTranslator.ties.rebuild name) backReferenceSession
      type backReferenceSession := by
    rcases List.mem_cons.1 (Registry.mem_entries_of_get? found) with same | member
    · cases same
      rfl
    · cases List.mem_singleton.1 member
      rfl
  exact ⟨type, backReferenceSession, rebuilt, rfl, rfl⟩

set_option maxRecDepth 10000 in
theorem agrees_iff_settled_backReference : ∃ translator translator' s s',
    Run.Returns (registerAll (.root 0 (contractOf backReference))) {} translator s ∧
    Run.Returns (registerAll (.root 0 (contractOf backReference.reverse))) {} translator' s' ∧
    s.hoisted = [] ∧ s'.hoisted = [] ∧ (Settled translator s ∨ Settled translator' s') ∧
    (s.registry.Agrees s'.registry ↔ Settled translator s ∧ Settled translator' s') := by
  have returned : Run.Returns (registerAll (.root 0 (contractOf backReference))) {}
      backReferenceTranslator backReferenceSession := rfl
  have ok : ((registerAll (.root 0 (contractOf backReference.reverse))).passes {}
      fun _ t => t.hoisted.isEmpty) = true := by decide +kernel
  obtain ⟨translator', s', returned', unhoisted'⟩ := Run.exists_returns_of ok
  have unhoisted' := List.isEmpty_iff.1 unhoisted'
  exact ⟨_, translator', _, s', returned, returned', rfl, unhoisted', .inl settled_backReference,
    agrees_iff_settled returned returned' (components_of_registerAll returned)
      (components_of_registerAll returned') (List.reverse_perm _).symm (by decide) rfl unhoisted'
      (.inl settled_backReference)⟩

/-- A record whose fields lead to two components that extend it. -/
def crossed : List (String × Json) :=
  [("A", recordTo [("x", "E"), ("y", "D")]), ("D", extending "A" "d"), ("E", extending "A" "e")]

/-- When `E` is built for the record `A`, `A` is built anew, and meets `D`, which takes `A`
for no record.  With `D` first all three are records. -/
theorem components_depend_on_order : ∃ reordered translator translator' s s',
    crossed.Perm reordered ∧
    Run.Returns (registerAll (.root 0 (contractOf crossed))) {} translator s ∧
    Run.Returns (registerAll (.root 0 (contractOf reordered))) {} translator' s' ∧
    s.hoisted = [] ∧ s'.hoisted = [] ∧ ¬ s.registry.Agrees s'.registry := by
  have reordered : crossed.Perm (("D", extending "A" "d") :: crossed.eraseIdx 1) := .swap _ _ _
  have ok : ((registerAll (.root 0 (contractOf crossed))).passes {} fun _ t =>
      t.hoisted.isEmpty && (t.registry.get? "D").map Ty.isRecord == some false) = true := by
    decide +kernel
  have ok' : ((registerAll (.root 0 (contractOf
      (("D", extending "A" "d") :: crossed.eraseIdx 1)))).passes {} fun _ t =>
      t.hoisted.isEmpty && (t.registry.get? "D").map Ty.isRecord == some true) = true := by
    decide +kernel
  obtain ⟨translator, s, returned, left⟩ := Run.exists_returns_of ok
  obtain ⟨translator', s', returned', left'⟩ := Run.exists_returns_of ok'
  rw [Bool.and_eq_true, List.isEmpty_iff, beq_iff_eq] at left left'
  refine ⟨_, translator, translator', s, s', reordered, returned, returned', left.1, left'.1,
    fun agrees => ?_⟩
  have same := congrArg (Option.map Ty.isRecord) (agrees "D")
  simp only [Option.map_map, Function.comp_def, Ty.isRecord_unreasoned] at same
  rw [left.2, left'.2] at same
  cases same

end Translator

end TypedContract
