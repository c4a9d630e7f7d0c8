/-
# TypedContract.Proofs.Translation.Over -- types over a registry

Once all components are registered, a translation that hoists nothing only reads the
registry: the type of a schema is a function of the schema, its context and the
registered types (`typeOver`).  The schema of a component under its name has a type over
the registry in the same way (`namedOver`), which makes the registered types solutions
of a system of equations, one for each component.

A schema has the same type over a registry wherever it stands (`SameSchemas.typeOver`), so
documents that differ in the order of their components have the same equations.
-/
import TypedContract.Proofs.Schema.Unplaced
import TypedContract.Proofs.Translation.Derivation

namespace TypedContract

set_option autoImplicit false

namespace Schema

/-- What follows for a schema from its children holds of all schemas. -/
theorem induction {keeps : Schema → Prop}
    (step : ∀ schema : Schema, (∀ item, schema.items = some item → keeps item) →
      (∀ property ∈ schema.properties, keeps property.2) →
      (∀ value, schema.additional = some value → keeps value) →
      (∀ member ∈ schema.members, keeps member) → keeps schema) (schema : Schema) :
    keeps schema := by
  refine Schema.rec (motive_1 := keeps) (motive_2 := fun child => ∀ schema, child = some schema →
      keeps schema)
    (motive_3 := fun properties => ∀ property ∈ properties, keeps property.2)
    (motive_4 := fun members => ∀ member ∈ members, keeps member)
    (motive_5 := fun property => keeps property.2) ?_ ?_ ?_ ?_ ?_ ?_ ?_ ?_ schema
  · intro facts items properties additional members inItems inProperties inAdditional inMembers
    exact step _ inItems inProperties inAdditional inMembers
  · exact nofun
  · rintro child own schema ⟨⟩
    exact own
  · exact nofun
  · intro property rest first others
    exact List.forall_mem_cons.2 ⟨first, others⟩
  · exact nofun
  · intro member rest first others
    exact List.forall_mem_cons.2 ⟨first, others⟩
  · exact fun name property own => own

end Schema

namespace Translation

open Schema

/-! ## Types over a registry -/

/-- The type of a reference to a registered component, or to none. -/
def referenceOver (schemas : Node) (facts : Facts) : Option Ty :=
  match target? schemas facts with
  | .ok none => some (.unknown ("unresolved " ++ facts.ref.plain))
  | .ok (some name) => (admitsNilAtUse schemas name).toOption.map fun nilable =>
      referenceType nilable name
  | .error _ => none

/-- The type of a schema of no known kind. -/
def anyType (facts : Facts) : Ty :=
  match facts.declaredType with
  | none => .unknown "any"
  | some declared => .unknown ("unsupported type " ++ declared)

/-- The types that the members give to a merge when nothing is in progress. -/
def sourcesOver (registry : Registry) (types : List Ty) : List Ty :=
  types.map fun type => registry.resolve (bareMember type)

/-- The type of an `allOf` whose members do not merge. -/
def unmerged (name : Option String) : List Ty → Ty
  | [only] => .union name [only]
  | _ => .unknown "unsupported allOf"

/-- The combination of the members of an `allOf` when nothing is in progress. -/
def combineOver (registry : Registry) (facts : Facts) (name : Option String)
    (types : List Ty) : Option Ty :=
  if mergeable (sourcesOver registry types) then
    (strip facts.description).toOption.map fun text =>
      .record name (mergeFields (sourcesOver registry types)) text
  else some (unmerged name types)

/-- The record of an object with the fields of its properties. -/
def recordWith (facts : Facts) (name : Option String) (fields : List (Field Ty)) : Option Ty :=
  (strip facts.description).toOption.map fun text => .record name fields text

mutual

/-- The type of a schema over a registry of all components; none if the schema faults or
a record would be hoisted. -/
def typeOver (schemas : Node) (registry : Registry) : Schema → String → Option Ty
  | .mk facts items properties additional members, context =>
      withNil facts.nullable <$> match facts.kind with
        | .reference => referenceOver schemas facts
        | .array =>
            match items with
            | none => some (.array (.unknown "untyped items"))
            | some item => .array <$> typeOver schemas registry item (extend context "Item")
        | .object =>
            if properties.isEmpty then
              match additional with
              | none => some (.map (.unknown "any"))
              | some value => .map <$> typeOver schemas registry value (extend context "Value")
            else if context == "" then
              fieldsOver schemas registry none facts.required properties >>= recordWith facts none
            else none
        | .union =>
            .union none <$> eachOver schemas registry (fun _ => false)
              (fun i _ => extend context (toString i)) 1 members
        | .allOf =>
            eachOver schemas registry isNote (memberContext (mergeName context)) 1 members >>=
              combineOver registry facts (mergeName context)
        | .any => some (anyType facts)
        | _ => (scalar facts).toOption

/-- The types of the members that are not skipped, with contexts numbered from `i` on. -/
def eachOver (schemas : Node) (registry : Registry) (skip : Schema → Bool)
    (contextOf : Nat → Kind → String) (i : Nat) : List Schema → Option (List Ty)
  | [] => some []
  | member :: rest =>
      if skip member then eachOver schemas registry skip contextOf i rest
      else do
        let type ← typeOver schemas registry member (contextOf i member.kind)
        return type :: (← eachOver schemas registry skip contextOf (i + 1) rest)

/-- The fields of the properties of an object. -/
def fieldsOver (schemas : Node) (registry : Registry) (name : Option String)
    (required : List Json) : List (String × Schema) → Option (List (Field Ty))
  | [] => some []
  | (property, schema) :: rest => do
      let type ← typeOver schemas registry schema (propertyContext name property)
      let text ← (describe schema.facts).toOption
      return fieldOf required property schema type text ::
        (← fieldsOver schemas registry name required rest)

end

/-- The type of a schema in its context. -/
def partOver (schemas : Node) (registry : Registry) (part : Schema × String) : Option Ty :=
  typeOver schemas registry part.1 part.2

/-- The type of a schema without the nil that it may add. -/
def bareOver (schemas : Node) (registry : Registry) (schema : Schema) (context : String) :
    Option Ty :=
  match schema.facts.kind with
  | .reference => referenceOver schemas schema.facts
  | .array =>
      match schema.items with
      | none => some (.array (.unknown "untyped items"))
      | some item => .array <$> typeOver schemas registry item (extend context "Item")
  | .object =>
      if schema.properties.isEmpty then
        match schema.additional with
        | none => some (.map (.unknown "any"))
        | some value => .map <$> typeOver schemas registry value (extend context "Value")
      else if context == "" then
        fieldsOver schemas registry none schema.facts.required schema.properties >>=
          recordWith schema.facts none
      else none
  | .union =>
      .union none <$> (unionParts context 1 schema.members).mapM (partOver schemas registry)
  | .allOf =>
      (typedParts (mergeName context) 1 schema.members).mapM (partOver schemas registry) >>=
        combineOver registry schema.facts (mergeName context)
  | .any => some (anyType schema.facts)
  | _ => (scalar schema.facts).toOption

/-- The type of the schema of a component under its name. -/
def namedOver (schemas : Node) (registry : Registry) (name : String) (schema : Schema) :
    Option Ty :=
  match schema.facts.kind with
  | .object =>
      if schema.properties.isEmpty then typeOver schemas registry schema name
      else fieldsOver schemas registry (some name) schema.facts.required schema.properties >>=
        recordWith schema.facts (some name)
  | .allOf =>
      (typedParts (some name) 1 schema.members).mapM (partOver schemas registry) >>=
        combineOver registry schema.facts (some name)
  | .union => namedUnion name schema.facts.nullable <$>
      (numberedParts name schema.members).mapM (partOver schemas registry)
  | _ => typeOver schemas registry schema name

variable {schemas : Node} {registry : Registry} {schema : Schema} {context : String}

theorem eachOver_eq_mapM {skip : Schema → Bool} {contextOf : Nat → Kind → String} {i : Nat}
    {members : List Schema} :
    eachOver schemas registry skip contextOf i members =
      (((members.filter (!skip ·)).zipIdx i).map
        fun part => (part.1, contextOf part.2 part.1.kind)).mapM (partOver schemas registry) := by
  induction members generalizing i with
  | nil => rfl
  | cons member rest ih =>
      rw [eachOver]
      cases skipped : skip member with
      | true =>
          rw [if_pos rfl, ih, List.filter_cons_of_neg (by simp [skipped])]
      | false =>
          rw [if_neg (by simp), ih, List.filter_cons_of_pos (by simp [skipped]), List.zipIdx_cons,
            List.map_cons, List.mapM_cons]
          rfl

theorem eachOver_union {i : Nat} {members : List Schema} :
    eachOver schemas registry (fun _ => false) (fun i _ => extend context (toString i)) i members =
      (unionParts context i members).mapM (partOver schemas registry) := by
  rw [eachOver_eq_mapM, unionParts, Bool.not_false, List.filter_true]

theorem eachOver_typed {name : Option String} {i : Nat} {members : List Schema} :
    eachOver schemas registry isNote (memberContext name) i members =
      (typedParts name i members).mapM (partOver schemas registry) :=
  eachOver_eq_mapM

theorem typeOver_eq : typeOver schemas registry schema context =
    withNil schema.facts.nullable <$> bareOver schemas registry schema context := by
  obtain ⟨facts, items, properties, additional, members⟩ := schema
  rw [typeOver.eq_def, bareOver]
  simp only [eachOver_union, eachOver_typed, Schema.facts, Schema.items, Schema.properties,
    Schema.additional, Schema.members]
  cases facts.kind <;> rfl

variable {name : String} {type : Ty}

/-! ## Reading types backwards -/

theorem typeOver_eq_some : typeOver schemas registry schema context = some type ↔
    ∃ inner, bareOver schemas registry schema context = some inner ∧
      withNil schema.facts.nullable inner = type := by
  rw [typeOver_eq]
  exact Option.map_eq_some_iff

theorem recordWith_eq_some {facts : Facts} {record : Option String} {fields : List (Field Ty)} :
    recordWith facts record fields = some type ↔
      ∃ text, strip facts.description = .ok text ∧ .record record fields text = type := by
  rw [recordWith, Option.map_eq_some_iff]
  simp only [toOption_eq_some]

theorem bind_recordWith_eq_some {facts : Facts} {record : Option String}
    {found : Option (List (Field Ty))} :
    found.bind (recordWith facts record) = some type ↔ ∃ fields text, found = some fields ∧
      strip facts.description = .ok text ∧ .record record fields text = type := by
  refine Option.bind_eq_some_iff.trans ?_
  simp only [recordWith_eq_some]
  exact ⟨fun ⟨fields, inside, text, found⟩ => ⟨fields, text, inside, found⟩,
    fun ⟨fields, text, inside, found⟩ => ⟨fields, inside, text, found⟩⟩

theorem bareOver_object (kind : schema.facts.kind = .object) (properties : schema.properties ≠ []) :
    bareOver schemas registry schema context = some type ↔
      context = "" ∧ ∃ fields text,
        fieldsOver schemas registry none schema.facts.required schema.properties = some fields ∧
        strip schema.facts.description = .ok text ∧ .record none fields text = type := by
  simp only [bareOver, kind, List.isEmpty_iff, if_neg properties]
  split
  · rename_i empty
    refine bind_recordWith_eq_some.trans ?_
    simp only [eq_of_beq empty, true_and]
  · rename_i apart
    simp only [beq_iff_eq] at apart
    simp [apart]

theorem bareOver_reference (kind : schema.facts.kind = .reference)
    (leads : target? schemas schema.facts = .ok (some name)) :
    bareOver schemas registry schema context = some type ↔
      ∃ nilable, admitsNilAtUse schemas name = .ok nilable ∧ referenceType nilable name = type := by
  simp only [bareOver, kind, referenceOver, leads, Option.map_eq_some_iff, toOption_eq_some]

theorem bareOver_allOf (kind : schema.facts.kind = .allOf) :
    bareOver schemas registry schema context = some type ↔
      ∃ types, (typedParts (mergeName context) 1 schema.members).mapM (partOver schemas registry) =
          some types ∧
        combineOver registry schema.facts (mergeName context) types = some type := by
  simp only [bareOver, kind]
  exact Option.bind_eq_some_iff

theorem bareOver_union (kind : schema.facts.kind = .union) :
    bareOver schemas registry schema context = some type ↔
      ∃ types, (unionParts context 1 schema.members).mapM (partOver schemas registry) = some types ∧
        .union none types = type := by
  simp only [bareOver, kind]
  exact Option.map_eq_some_iff

/-- The types of a single member are the type of that member. -/
theorem mapM_unionParts_single {only : Schema} {types : List Ty}
    (inside : (unionParts context 1 [only]).mapM (partOver schemas registry) = some types) :
    ∃ type, typeOver schemas registry only (extend context (toString 1)) = some type ∧
      types = [type] := by
  obtain ⟨type, rest, own, none, rfl⟩ := List.forall₂_cons_left_iff.1 (mapM_eq_some_iff.1 inside)
  rw [List.forall₂_nil_left_iff.1 none]
  exact ⟨type, own, rfl⟩

theorem combineOver_merged {facts : Facts} {record : Option String} {types : List Ty}
    (records : mergeable (sourcesOver registry types) = true) :
    combineOver registry facts record types = some type ↔
      ∃ text, strip facts.description = .ok text ∧
        .record record (mergeFields (sourcesOver registry types)) text = type := by
  unfold combineOver
  rw [if_pos records, Option.map_eq_some_iff]
  simp only [toOption_eq_some]

theorem namedOver_object (kind : schema.facts.kind = .object) (properties : schema.properties ≠ []) :
    namedOver schemas registry name schema = some type ↔ ∃ fields text,
      fieldsOver schemas registry (some name) schema.facts.required schema.properties =
        some fields ∧
      strip schema.facts.description = .ok text ∧ .record (some name) fields text = type := by
  simp only [namedOver, kind, List.isEmpty_iff, if_neg properties]
  exact bind_recordWith_eq_some

theorem namedOver_allOf (kind : schema.facts.kind = .allOf) :
    namedOver schemas registry name schema = some type ↔
      ∃ types, (typedParts (some name) 1 schema.members).mapM (partOver schemas registry) =
          some types ∧
        combineOver registry schema.facts (some name) types = some type := by
  simp only [namedOver, kind]
  exact Option.bind_eq_some_iff

theorem namedOver_reference (kind : schema.facts.kind = .reference) :
    namedOver schemas registry name schema = typeOver schemas registry schema name := by
  simp only [namedOver, kind]

/-! ## Wherever the schemas stand -/

/-- The second schemas are those of the first, wherever they stand. -/
structure SameSchemas (schemas base : Node) : Prop where
  holds : ∀ name, base.value.holds name = schemas.value.holds name
  component : ∀ name, componentSchema base name = unplaced <$> componentSchema schemas name

variable {base : Node} (reads : SameSchemas schemas base)

theorem unionParts_unplaced {i : Nat} {members : List Schema} :
    unionParts context i (members.map unplaced) =
      (unionParts context i members).map fun part => (part.1.unplaced, part.2) := by
  simp only [unionParts, List.zipIdx_map, List.map_map]
  rfl

theorem numberedParts_unplaced {members : List Schema} :
    numberedParts context (members.map unplaced) =
      (numberedParts context members).map fun part => (part.1.unplaced, part.2) := by
  simp only [numberedParts, List.zipIdx_map, List.map_map]
  rfl

theorem typedParts_unplaced {name : Option String} {i : Nat} {members : List Schema} :
    typedParts name i (members.map unplaced) =
      (typedParts name i members).map fun part => (part.1.unplaced, part.2) := by
  have typed : (members.map unplaced).filter (!·.isNote) =
      (members.filter (!·.isNote)).map unplaced := by
    rw [List.filter_map]
    exact congrArg _ (List.filter_congr fun member _ => congrArg not isNote_unplaced)
  simp only [typedParts, typed, List.zipIdx_map, List.map_map]
  refine List.map_congr_left fun part _ => ?_
  simp only [Function.comp, Prod.map, Schema.kind, facts_unplaced]
  rfl

/-- The schema has the same type over the registry wherever it stands. -/
def SameOver (schemas base : Node) (registry : Registry) (schema : Schema) : Prop :=
  ∀ context, typeOver base registry schema.unplaced context =
    typeOver schemas registry schema context

theorem SameOver.parts {parts : List (Schema × String)}
    (each : ∀ part ∈ parts, SameOver schemas base registry part.1) :
    (parts.map fun part => (part.1.unplaced, part.2)).mapM (partOver base registry) =
      parts.mapM (partOver schemas registry) := by
  rw [List.mapM_map]
  exact mapM_congr_mem fun part member => each part member part.2

theorem SameOver.fields {name : Option String} {required : List Json}
    {properties : List (String × Schema)}
    (each : ∀ property ∈ properties, SameOver schemas base registry property.2) :
    fieldsOver base registry name required
        (properties.map fun property => (property.1, property.2.unplaced)) =
      fieldsOver schemas registry name required properties := by
  induction properties with
  | nil => simp [fieldsOver]
  | cons property rest ih =>
      obtain ⟨property, schema⟩ := property
      have same := each _ List.mem_cons_self (propertyContext name property)
      rw [List.map_cons, fieldsOver, fieldsOver,
        ih fun other member => each other (List.mem_cons_of_mem _ member)]
      obtain ⟨facts, items, properties, additional, members⟩ := schema
      rw [same]
      rfl

include reads

theorem SameSchemas.target? (facts : Facts) :
    target? base facts.unplaced = Translation.target? schemas facts := by
  unfold Translation.target?
  simp only [reads.holds]
  rfl

theorem SameSchemas.admitsNilAtUse (name : String) :
    admitsNilAtUse base name = Translation.admitsNilAtUse schemas name := by
  have read (from_ : Node) : Translation.admitsNilAtUse from_ name =
      componentSchema from_ name >>= fun schema =>
        if !schema.facts.nullable then return false
        else return schema.kind == .allOf ||
          (schema.kind == .object && !schema.properties.isEmpty) := by
    unfold Translation.admitsNilAtUse componentSchema
    rw [bind_assoc]
  rw [read, read, reads.component, bind_map_left]
  refine bind_congr fun schema => ?_
  rw [Schema.kind, facts_unplaced, properties_unplaced, List.isEmpty_map]
  rfl

/-- A schema has its type over a registry wherever it stands. -/
theorem SameSchemas.typeOver : typeOver base registry schema.unplaced context =
    Translation.typeOver schemas registry schema context := by
  suffices same : SameOver schemas base registry schema from same context
  induction schema using Schema.induction with
  | step schema inItems inProperties inAdditional inMembers =>
      intro context
      have members : (unionParts context 1 (schema.members.map unplaced)).mapM
          (partOver base registry) =
          (unionParts context 1 schema.members).mapM (partOver schemas registry) := by
        rw [unionParts_unplaced]
        exact SameOver.parts (forall_unionParts inMembers)
      have typed : (typedParts (mergeName context) 1 (schema.members.map unplaced)).mapM
          (partOver base registry) =
          (typedParts (mergeName context) 1 schema.members).mapM (partOver schemas registry) := by
        rw [typedParts_unplaced]
        exact SameOver.parts (forall_typedParts inMembers)
      have fields : fieldsOver base registry none schema.facts.required
          (schema.properties.map fun property => (property.1, property.2.unplaced)) =
          fieldsOver schemas registry none schema.facts.required schema.properties :=
        SameOver.fields inProperties
      rw [typeOver_eq, typeOver_eq, facts_unplaced]
      refine congrArg _ ?_
      unfold bareOver referenceOver
      rw [facts_unplaced, items_unplaced, properties_unplaced, additional_unplaced,
        members_unplaced, members, typed, reads.target?]
      have kind : schema.facts.unplaced.kind = schema.facts.kind := rfl
      rw [kind]
      cases schema.facts.kind with
      | reference => simp only [reads.admitsNilAtUse]; rfl
      | array =>
          cases items : schema.items with
          | none => rfl
          | some item =>
              change Ty.array <$> Translation.typeOver base registry item.unplaced _ = _
              rw [inItems item items]
      | object =>
          dsimp only
          rw [List.isEmpty_map]
          cases schema.properties.isEmpty with
          | true =>
              cases additional : schema.additional with
              | none => rfl
              | some value =>
                  change Ty.map <$> Translation.typeOver base registry value.unplaced _ = _
                  rw [inAdditional value additional]
                  rfl
          | false =>
              cases context == "" with
              | true => exact congrArg (· >>= recordWith schema.facts none) fields
              | false => rfl
      | _ => rfl

/-- A component has its type over a registry wherever it stands. -/
theorem SameSchemas.namedOver {name : String} : namedOver base registry name schema.unplaced =
    Translation.namedOver schemas registry name schema := by
  have each : ∀ schema, SameOver schemas base registry schema := fun _ _ => reads.typeOver
  have numbered : (numberedParts name (schema.members.map unplaced)).mapM
      (partOver base registry) =
      (numberedParts name schema.members).mapM (partOver schemas registry) := by
    rw [numberedParts_unplaced]
    exact SameOver.parts fun part _ => each part.1
  have typed : (typedParts (some name) 1 (schema.members.map unplaced)).mapM
      (partOver base registry) =
      (typedParts (some name) 1 schema.members).mapM (partOver schemas registry) := by
    rw [typedParts_unplaced]
    exact SameOver.parts fun part _ => each part.1
  have fields : fieldsOver base registry (some name) schema.facts.required
      (schema.properties.map fun property => (property.1, property.2.unplaced)) =
      fieldsOver schemas registry (some name) schema.facts.required schema.properties :=
    SameOver.fields fun property _ => each property.2
  unfold Translation.namedOver
  rw [facts_unplaced, properties_unplaced, members_unplaced, numbered, typed, List.isEmpty_map,
    each schema name]
  have kind : schema.facts.unplaced.kind = schema.facts.kind := rfl
  rw [kind]
  cases schema.facts.kind with
  | object =>
      cases schema.properties.isEmpty with
      | true => rfl
      | false => exact congrArg (· >>= recordWith schema.facts (some name)) fields
  | _ => rfl

end Translation

end TypedContract
