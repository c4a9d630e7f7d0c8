/-
# TypedContract.Proofs.Translation.Agreement -- the equations have one solution

A registry solves the equations of a document when each component has its registered
type over the registry, but for the reasons of unknown types.  The equations refer to each
other, and an `allOf` takes fields out of the types of others, so nothing says that there
is a solution.  But what a run registers is a record only where the schemas stand for one
(`LeadsRightly`), and of that kind there is at most one solution (`Solves.unique`): layer
by layer the records of two solutions agree, a layer of a merge being that of its members
and a layer of an object the shallower layers of its properties.
-/
import TypedContract.Proofs.Registry.Resolving
import TypedContract.Proofs.Translation.Finished
import TypedContract.Proofs.Translation.Layers
import TypedContract.Proofs.Translation.Soundness

namespace TypedContract.Translation

set_option autoImplicit false

open Schema

variable {schemas : Node} {registry other : Registry} {schema : Schema} {context name : String}
  {type : Ty}

/-! ## Solutions -/

/-- Each component has its registered type over the registry. -/
def Solves (schemas : Node) (registry : Registry) : Prop :=
  ∀ name schema, componentSchema schemas name = .ok schema →
    ∃ type anew, registry.get? name = some type ∧
      namedOver schemas registry name schema = some anew ∧ anew.unreasoned = type.unreasoned

/-- What a run leaves behind: all components are registered, nothing is in progress, and
only what stands for a record is one. -/
structure Outcome (schemas : Node) (registry : Registry) : Prop where
  object : ∃ entries, schemas.value = .object entries
  idle : registry.building = []
  registered : ∀ name, schemas.value.holds name = .ok true →
    ∃ type, registry.get? name = some type
  reserves : ReservesComponents schemas registry
  rightly : LeadsRightly schemas registry

/-! ## What stands for a record is one -/

theorem bareMember_withNil_self {nullable : Bool} (some_ : type.isNilable = false)
    (bare : bareMember type = type) : bareMember (withNil nullable type) = type := by
  unfold withNil
  cases nullable with
  | false => exact bare
  | true =>
      have kept : [type, Ty.nil].filter (!·.isNil) = [type] := by
        rw [List.filter_cons_of_pos (by simp [isNil_of_isNilable_false some_])]
        rfl
      rw [some_, Bool.not_false, Bool.and_true, if_pos rfl, bareMember]
      simp only [kept]

theorem bareMember_record {nullable : Bool} {record : Option String} {fields : List (Field Ty)}
    {text : String} :
    bareMember (withNil nullable (.record record fields text)) = .record record fields text :=
  bareMember_withNil_self rfl rfl

theorem bareMember_reference {nullable nilable : Bool} :
    bareMember (withNil nullable (referenceType nilable name)) = .reference name := by
  cases nilable with
  | false => exact bareMember_withNil_self rfl rfl
  | true => cases nullable <;> rfl

theorem bareMember_single {only : Ty} (some_ : only.isNil = false) :
    bareMember (.union none [only]) = only := by
  have kept : [only].filter (!·.isNil) = [only] := by
    rw [List.filter_cons_of_pos (by simp [some_])]
    rfl
  unfold bareMember
  simp only [kept]

theorem isNil_of_resolve (record : (registry.resolve type).isRecord = true) :
    type.isNil = false := by
  cases type with
  | primitive => cases record
  | _ => rfl

/-- In its role, the schema has a record over the registry. -/
def Role.Records (schemas : Node) (registry : Registry) : Role → Prop
  | .plain schema =>
      (∀ context type, typeOver schemas registry schema context = some type →
        (registry.resolve type).isRecord = true) ∧
      (schema.facts.kind = .allOf → ∀ name types,
        (typedParts name 1 schema.members).mapM (partOver schemas registry) = some types →
        mergeable (sourcesOver registry types) = true)
  | .member schema => ∀ context type, typeOver schemas registry schema context = some type →
      (registry.resolve (bareMember type)).isRecord = true
  | .component name => (registry.resolve (.reference name)).isRecord = true
  | .members inside => ∀ name types,
      (typedParts name 1 inside).mapM (partOver schemas registry) = some types →
      mergeable (sourcesOver registry types) = true

/-- A component leads to what its type over the registry leads to, when that is a record. -/
theorem Solves.resolve (solves : Solves schemas registry)
    (parsed : componentSchema schemas name = .ok schema)
    (yields : namedOver schemas registry name schema = some type)
    (record : (registry.resolve type).isRecord = true) :
    (registry.resolve (.reference name)).unreasoned = (registry.resolve type).unreasoned := by
  obtain ⟨known, anew, found, yields', same⟩ := solves name schema parsed
  cases yields.symm.trans yields'
  have leads := Registry.Agrees.resolve (fun _ => rfl) same record
  have record' : (registry.resolve known).isRecord = true := by
    rw [← Ty.isRecord_unreasoned, ← leads, Ty.isRecord_unreasoned]
    exact record
  rw [Registry.resolve_reference found record', leads]

/-- A component is a record when its type over a solution is one. -/
theorem Solves.isRecord_reference (solves : Solves schemas registry)
    (parsed : componentSchema schemas name = .ok schema)
    (record : ∀ type, namedOver schemas registry name schema = some type →
      (registry.resolve type).isRecord = true) :
    (registry.resolve (.reference name)).isRecord = true := by
  obtain ⟨known, type, -, yields, -⟩ := solves name schema parsed
  rw [← Ty.isRecord_unreasoned, solves.resolve parsed yields (record type yields),
    Ty.isRecord_unreasoned]
  exact record type yields

theorem Solves.isRecord_object (solves : Solves schemas registry)
    (parsed : componentSchema schemas name = .ok schema) (kind : schema.facts.kind = .object)
    (properties : schema.properties ≠ []) :
    (registry.resolve (.reference name)).isRecord = true := by
  refine solves.isRecord_reference parsed fun type yields => ?_
  obtain ⟨fields, text, -, -, rfl⟩ := (namedOver_object kind properties).1 yields
  rfl

theorem Solves.isRecord_merge (solves : Solves schemas registry)
    (parsed : componentSchema schemas name = .ok schema) (kind : schema.facts.kind = .allOf)
    (records : Role.Records schemas registry (.members schema.members)) :
    (registry.resolve (.reference name)).isRecord = true := by
  refine solves.isRecord_reference parsed fun type yields => ?_
  obtain ⟨types, inside, merged⟩ := (namedOver_allOf kind).1 yields
  obtain ⟨text, -, rfl⟩ := (combineOver_merged (records _ _ inside)).1 merged
  rfl

theorem typeOver_object (kind : schema.facts.kind = .object) (properties : schema.properties ≠ [])
    (yields : typeOver schemas registry schema context = some type) :
    ∃ fields text, type = withNil schema.facts.nullable (.record none fields text) := by
  obtain ⟨inner, bare, rfl⟩ := typeOver_eq_some.1 yields
  obtain ⟨rfl, fields, text, -, -, rfl⟩ := (bareOver_object kind properties).1 bare
  exact ⟨fields, text, rfl⟩

theorem typeOver_merge (kind : schema.facts.kind = .allOf)
    (records : Role.Records schemas registry (.members schema.members))
    (yields : typeOver schemas registry schema context = some type) :
    ∃ record fields text, type = withNil schema.facts.nullable (.record record fields text) := by
  obtain ⟨inner, bare, rfl⟩ := typeOver_eq_some.1 yields
  obtain ⟨types, inside, merged⟩ := (bareOver_allOf kind).1 bare
  obtain ⟨text, -, rfl⟩ := (combineOver_merged (records _ _ inside)).1 merged
  exact ⟨_, _, _, rfl⟩

/-- Members merge when there is one with a type and each of those is a record. -/
theorem mergeable_of_members {inside : List Schema} {record : Option String} {types : List Ty}
    (typed : inside.filter (!·.isNote) ≠ [])
    (each : ∀ member ∈ inside.filter (!·.isNote), Role.Records schemas registry (.member member))
    (parts : (typedParts record 1 inside).mapM (partOver schemas registry) = some types) :
    mergeable (sourcesOver registry types) = true := by
  replace parts := mapM_eq_some_iff.1 parts
  simp only [mergeable, Bool.and_eq_true, Bool.not_eq_true', List.isEmpty_eq_false_iff,
    List.all_eq_true]
  constructor
  · intro none
    rw [List.map_eq_nil_iff.1 none] at parts
    have nothing : (typedParts record 1 inside).map Prod.fst = [] :=
      List.map_eq_nil_iff.2 (List.forall₂_nil_right_iff.1 parts)
    rw [map_fst_typedParts] at nothing
    exact typed nothing
  · intro source member
    obtain ⟨type, held, rfl⟩ := List.mem_map.1 member
    obtain ⟨part, inParts, own⟩ := exists_of_forall₂_right parts held
    have among : part.1 ∈ (typedParts record 1 inside).map Prod.fst := List.mem_map_of_mem inParts
    rw [map_fst_typedParts] at among
    exact each part.1 among part.2 type own

/-- What stands for a record has one over a solution. -/
theorem Recordlike.records (solves : Solves schemas registry) {role : Role}
    (recordlike : Recordlike schemas role) : role.Records schemas registry := by
  induction recordlike with
  | object kind properties some_ =>
      refine ⟨fun context type yields => ?_, fun merge => by rw [kind] at merge; cases merge⟩
      obtain ⟨fields, text, rfl⟩ := typeOver_object kind properties yields
      rw [some_]
      rfl
  | reference kind leads some_ atUse inside ih =>
      refine ⟨fun context type yields => ?_, fun merge => by rw [kind] at merge; cases merge⟩
      obtain ⟨inner, bare, rfl⟩ := typeOver_eq_some.1 yields
      obtain ⟨nilable, atUse', rfl⟩ := (bareOver_reference kind leads).1 bare
      cases atUse.symm.trans atUse'
      rw [some_]
      exact ih
  | allOf kind some_ members ih =>
      refine ⟨fun context type yields => ?_, fun _ => ih⟩
      obtain ⟨record, fields, text, rfl⟩ := typeOver_merge kind ih yields
      rw [some_]
      rfl
  | objectMember kind properties =>
      intro context type yields
      obtain ⟨fields, text, rfl⟩ := typeOver_object kind properties yields
      rw [bareMember_record]
      rfl
  | referenceMember kind leads inside ih =>
      intro context type yields
      obtain ⟨inner, bare, rfl⟩ := typeOver_eq_some.1 yields
      obtain ⟨nilable, -, rfl⟩ := (bareOver_reference kind leads).1 bare
      rw [bareMember_reference]
      exact ih
  | allOfMember kind members ih =>
      intro context type yields
      obtain ⟨record, fields, text, rfl⟩ := typeOver_merge kind ih yields
      rw [bareMember_record]
      rfl
  | @unionMember schema only kind single some_ plain ih =>
      intro context type yields
      obtain ⟨inner, bare, rfl⟩ := typeOver_eq_some.1 yields
      obtain ⟨types, inside, rfl⟩ := (bareOver_union kind).1 bare
      rw [single] at inside
      obtain ⟨only, own, rfl⟩ := mapM_unionParts_single inside
      have record := ih.1 _ _ own
      rw [some_]
      change (registry.resolve (bareMember (.union none [only]))).isRecord = true
      rw [bareMember_single (isNil_of_resolve record)]
      exact record
  | componentObject parsed kind properties => exact solves.isRecord_object parsed kind properties
  | componentMerge parsed kind members ih => exact solves.isRecord_merge parsed kind ih
  | componentAlias parsed plain ih =>
      -- An object or an `allOf` is built anew under its name; only an alias keeps the type of
      -- its schema.
      cases plain with
      | object kind properties => exact solves.isRecord_object parsed kind properties
      | allOf kind => exact solves.isRecord_merge parsed kind (ih.2 kind)
      | reference kind =>
          exact solves.isRecord_reference parsed fun type yields =>
            ih.1 _ _ (namedOver_reference kind ▸ yields)
  | members typed each ih => exact fun _ _ => mergeable_of_members typed ih

/-- What merges over an outcome stands for a record. -/
theorem Outcome.recordlike (outcome : Outcome schemas registry) {members : List Schema}
    {record : Option String} {types : List Ty}
    (inside : (typedParts record 1 members).mapM (partOver schemas registry) = some types)
    (records : mergeable (sourcesOver registry types) = true) :
    Recordlike schemas (.members members) := by
  have ready : (Ties.within schemas 1).ReachRegistered schemas registry :=
    Ties.reachRegistered_within outcome.object 0
  have finished : Finished schemas { registry := registry } :=
    ⟨outcome.idle, rfl, outcome.registered⟩
  obtain ⟨t, -, -, returned⟩ :=
    gives_translateTyped (fun member _ => gives_translate ready member) inside _ finished rfl
  have each := ((derives_translateTyped (Ties.within_sound schemas 1) returned).leadsToRecords
    outcome.reserves outcome.rightly).2
  simp only [mergeable, Bool.and_eq_true, Bool.not_eq_true', List.isEmpty_eq_false_iff,
    List.all_eq_true] at records
  refine recordlike_members each (fun none => records.1 (List.map_eq_nil_iff.2 none)) ?_
  intro type member
  exact leads_of_resolve outcome.rightly
    (leads_of_isRecord (records.2 _ (List.mem_map_of_mem member)))

/-! ## The records of two solutions -/

/-- In its role, the schema has records with the same layer over both registries. -/
def Role.OutlinesAgree (schemas : Node) (registry other : Registry) (n : Nat) : Role → Prop
  | .plain schema =>
      (∀ context type type', typeOver schemas registry schema context = some type →
        typeOver schemas other schema context = some type' →
        (registry.resolve type).outline n = (other.resolve type').outline n) ∧
      (schema.facts.kind = .allOf → ∀ name types types',
        (typedParts name 1 schema.members).mapM (partOver schemas registry) = some types →
        (typedParts name 1 schema.members).mapM (partOver schemas other) = some types' →
        (sourcesOver registry types).map (Ty.outline n) =
          (sourcesOver other types').map (Ty.outline n))
  | .member schema => ∀ context type type', typeOver schemas registry schema context = some type →
      typeOver schemas other schema context = some type' →
      (registry.resolve (bareMember type)).outline n = (other.resolve (bareMember type')).outline n
  | .component name =>
      (registry.resolve (.reference name)).outline n = (other.resolve (.reference name)).outline n
  | .members inside => ∀ name types types',
      (typedParts name 1 inside).mapM (partOver schemas registry) = some types →
      (typedParts name 1 inside).mapM (partOver schemas other) = some types' →
      (sourcesOver registry types).map (Ty.outline n) =
        (sourcesOver other types').map (Ty.outline n)

/-- Records of one name and documentation with the same layer `n`. -/
inductive RecordsAlike (n : Nat) : Ty → Ty → Prop where
  | intro (record : Option String) (fields fields' : List (Field Ty)) (text : String)
      (same : (Ty.record record fields text).outline n = (Ty.record record fields' text).outline n) :
      RecordsAlike n (.record record fields text) (.record record fields' text)

theorem RecordsAlike.bareMember {n : Nat} {type type' : Ty} (alike : RecordsAlike n type type')
    (nullable : Bool) :
    (registry.resolve (Translation.bareMember (withNil nullable type))).outline n =
      (other.resolve (Translation.bareMember (withNil nullable type'))).outline n := by
  obtain ⟨record, fields, fields', text, same⟩ := alike
  rw [bareMember_record, bareMember_record]
  exact same

section Layer

variable {n : Nat} {facts : Facts} {record : Option String} {text : String} {type' : Ty}

/-- A layer of an object is made of the shallower layers of its properties. -/
theorem recordsAlike_fields {required : List Json} {properties : List (String × Schema)}
    {fields fields' : List (Field Ty)}
    (before : ∀ schema, AlikeOver schemas registry other (· < n) schema)
    (own : fieldsOver schemas registry record required properties = some fields)
    (own' : fieldsOver schemas other record required properties = some fields') :
    RecordsAlike n (.record record fields text) (.record record fields' text) := by
  refine .intro _ _ _ _ (outline_record fun m next => ?_)
  have each : ∀ property ∈ properties, AlikeOver schemas registry other (· < n) property.2 :=
    fun property _ => before property.2
  have same := AlikeOver.fields record required each (show m < n by omega)
  rw [own, own'] at same
  exact Option.some.inj same

/-- A layer of a merge is made of the same layer of its members. -/
theorem recordsAlike_merge {types types' : List Ty}
    (records : mergeable (sourcesOver registry types) = true)
    (records' : mergeable (sourcesOver other types') = true)
    (same : (sourcesOver registry types).map (Ty.outline n) =
      (sourcesOver other types').map (Ty.outline n))
    (own : combineOver registry facts record types = some type)
    (own' : combineOver other facts record types' = some type') :
    RecordsAlike n type type' := by
  obtain ⟨text, described, rfl⟩ := (combineOver_merged records).1 own
  obtain ⟨text', described', rfl⟩ := (combineOver_merged records').1 own'
  cases described.symm.trans described'
  refine .intro _ _ _ _ (outline_record ?_)
  rintro m rfl
  rw [outlineFields_mergeFields, outlineFields_mergeFields, same]

theorem typeOver_object_alike (before : ∀ schema, AlikeOver schemas registry other (· < n) schema)
    (kind : schema.facts.kind = .object) (properties : schema.properties ≠ [])
    (yields : typeOver schemas registry schema context = some type)
    (yields' : typeOver schemas other schema context = some type') :
    ∃ inner inner', type = withNil schema.facts.nullable inner ∧
      type' = withNil schema.facts.nullable inner' ∧ RecordsAlike n inner inner' := by
  obtain ⟨inner, bare, rfl⟩ := typeOver_eq_some.1 yields
  obtain ⟨inner', bare', rfl⟩ := typeOver_eq_some.1 yields'
  obtain ⟨-, own, text, inside, described, rfl⟩ := (bareOver_object kind properties).1 bare
  obtain ⟨-, own', text', inside', described', rfl⟩ := (bareOver_object kind properties).1 bare'
  cases described.symm.trans described'
  exact ⟨_, _, rfl, rfl, recordsAlike_fields before inside inside'⟩

theorem typeOver_merge_alike (kind : schema.facts.kind = .allOf)
    (records : Role.Records schemas registry (.members schema.members))
    (records' : Role.Records schemas other (.members schema.members))
    (agree : Role.OutlinesAgree schemas registry other n (.members schema.members))
    (yields : typeOver schemas registry schema context = some type)
    (yields' : typeOver schemas other schema context = some type') :
    ∃ inner inner', type = withNil schema.facts.nullable inner ∧
      type' = withNil schema.facts.nullable inner' ∧ RecordsAlike n inner inner' := by
  obtain ⟨inner, bare, rfl⟩ := typeOver_eq_some.1 yields
  obtain ⟨inner', bare', rfl⟩ := typeOver_eq_some.1 yields'
  obtain ⟨types, inside, own⟩ := (bareOver_allOf kind).1 bare
  obtain ⟨types', inside', own'⟩ := (bareOver_allOf kind).1 bare'
  exact ⟨_, _, rfl, rfl, recordsAlike_merge (records _ _ inside) (records' _ _ inside')
    (agree _ _ _ inside inside') own own'⟩

variable (solves : Solves schemas registry) (solves' : Solves schemas other)
include solves solves'

/-- Two solutions have a layer of a component in common when they give it records with that
layer. -/
theorem outline_reference (parsed : componentSchema schemas name = .ok schema)
    (agree : ∀ type type', namedOver schemas registry name schema = some type →
      namedOver schemas other name schema = some type' →
      (registry.resolve type).isRecord = true ∧ (other.resolve type').isRecord = true ∧
        (registry.resolve type).outline n = (other.resolve type').outline n) :
    (registry.resolve (.reference name)).outline n =
      (other.resolve (.reference name)).outline n := by
  obtain ⟨-, type, -, yields, -⟩ := solves name schema parsed
  obtain ⟨-, type', -, yields', -⟩ := solves' name schema parsed
  obtain ⟨record, record', same⟩ := agree type type' yields yields'
  rw [Ty.unreasoned_eq_iff.1 (solves.resolve parsed yields record) n,
    Ty.unreasoned_eq_iff.1 (solves'.resolve parsed yields' record') n, same]

theorem outline_object (before : ∀ schema, AlikeOver schemas registry other (· < n) schema)
    (parsed : componentSchema schemas name = .ok schema) (kind : schema.facts.kind = .object)
    (properties : schema.properties ≠ []) :
    (registry.resolve (.reference name)).outline n =
      (other.resolve (.reference name)).outline n := by
  refine outline_reference solves solves' parsed fun type type' yields yields' => ?_
  obtain ⟨own, text, inside, described, rfl⟩ := (namedOver_object kind properties).1 yields
  obtain ⟨own', text', inside', described', rfl⟩ := (namedOver_object kind properties).1 yields'
  cases described.symm.trans described'
  have alike : RecordsAlike n (.record (some name) own text) (.record (some name) own' text) :=
    recordsAlike_fields before inside inside'
  obtain ⟨_, _, _, _, same⟩ := alike
  exact ⟨rfl, rfl, same⟩

theorem outline_merge (parsed : componentSchema schemas name = .ok schema)
    (kind : schema.facts.kind = .allOf)
    (records : Role.Records schemas registry (.members schema.members))
    (records' : Role.Records schemas other (.members schema.members))
    (agree : Role.OutlinesAgree schemas registry other n (.members schema.members)) :
    (registry.resolve (.reference name)).outline n =
      (other.resolve (.reference name)).outline n := by
  refine outline_reference solves solves' parsed fun type type' yields yields' => ?_
  obtain ⟨types, inside, own⟩ := (namedOver_allOf kind).1 yields
  obtain ⟨types', inside', own'⟩ := (namedOver_allOf kind).1 yields'
  obtain ⟨_, _, _, _, same⟩ := recordsAlike_merge (records _ _ inside) (records' _ _ inside')
    (agree _ _ _ inside inside') own own'
  exact ⟨rfl, rfl, same⟩

/-- What stands for a record has the layer `n` in common over two solutions when all schemas
have the layers before it in common. -/
theorem Recordlike.agree (before : ∀ schema, AlikeOver schemas registry other (· < n) schema)
    {role : Role} (recordlike : Recordlike schemas role) :
    role.OutlinesAgree schemas registry other n := by
  induction recordlike with
  | object kind properties some_ =>
      refine ⟨fun context type type' yields yields' => ?_,
        fun merge => absurd (kind.symm.trans merge) (by decide)⟩
      obtain ⟨_, _, rfl, rfl, ⟨_, _, _, _, same⟩⟩ :=
        typeOver_object_alike before kind properties yields yields'
      rw [some_]
      exact same
  | reference kind leads some_ atUse inside ih =>
      refine ⟨fun context type type' yields yields' => ?_,
        fun merge => absurd (kind.symm.trans merge) (by decide)⟩
      obtain ⟨inner, bare, rfl⟩ := typeOver_eq_some.1 yields
      obtain ⟨inner', bare', rfl⟩ := typeOver_eq_some.1 yields'
      obtain ⟨nilable, found, rfl⟩ := (bareOver_reference kind leads).1 bare
      obtain ⟨nilable', found', rfl⟩ := (bareOver_reference kind leads).1 bare'
      cases atUse.symm.trans found
      cases atUse.symm.trans found'
      rw [some_]
      exact ih
  | allOf kind some_ members ih =>
      refine ⟨fun context type type' yields yields' => ?_, fun _ => ih⟩
      obtain ⟨_, _, rfl, rfl, ⟨_, _, _, _, same⟩⟩ := typeOver_merge_alike kind
        (members.records solves) (members.records solves') ih yields yields'
      rw [some_]
      exact same
  | objectMember kind properties =>
      intro context type type' yields yields'
      obtain ⟨_, _, rfl, rfl, alike⟩ :=
        typeOver_object_alike before kind properties yields yields'
      exact alike.bareMember _
  | referenceMember kind leads inside ih =>
      intro context type type' yields yields'
      obtain ⟨inner, bare, rfl⟩ := typeOver_eq_some.1 yields
      obtain ⟨inner', bare', rfl⟩ := typeOver_eq_some.1 yields'
      obtain ⟨nilable, -, rfl⟩ := (bareOver_reference kind leads).1 bare
      obtain ⟨nilable', -, rfl⟩ := (bareOver_reference kind leads).1 bare'
      rw [bareMember_reference, bareMember_reference]
      exact ih
  | allOfMember kind members ih =>
      intro context type type' yields yields'
      obtain ⟨_, _, rfl, rfl, alike⟩ := typeOver_merge_alike kind
        (members.records solves) (members.records solves') ih yields yields'
      exact alike.bareMember _
  | unionMember kind single some_ plain ih =>
      intro context type type' yields yields'
      obtain ⟨inner, bare, rfl⟩ := typeOver_eq_some.1 yields
      obtain ⟨inner', bare', rfl⟩ := typeOver_eq_some.1 yields'
      obtain ⟨types, inside, rfl⟩ := (bareOver_union kind).1 bare
      obtain ⟨types', inside', rfl⟩ := (bareOver_union kind).1 bare'
      rw [single] at inside inside'
      obtain ⟨only, own, rfl⟩ := mapM_unionParts_single inside
      obtain ⟨only', own', rfl⟩ := mapM_unionParts_single inside'
      rw [some_]
      -- a union of one alternative is merged as that alternative
      change (registry.resolve (bareMember (.union none [only]))).outline n =
        (other.resolve (bareMember (.union none [only']))).outline n
      rw [bareMember_single (isNil_of_resolve ((plain.records solves).1 _ _ own)),
        bareMember_single (isNil_of_resolve ((plain.records solves').1 _ _ own'))]
      exact ih.1 _ _ _ own own'
  | componentObject parsed kind properties =>
      exact outline_object solves solves' before parsed kind properties
  | componentMerge parsed kind members ih =>
      exact outline_merge solves solves' parsed kind (members.records solves)
        (members.records solves') ih
  | componentAlias parsed plain ih =>
      cases plain with
      | object kind properties => exact outline_object solves solves' before parsed kind properties
      | allOf kind some_ members =>
          exact outline_merge solves solves' parsed kind (members.records solves)
            (members.records solves') (ih.2 kind)
      | reference kind leads some_ atUse inside =>
          refine outline_reference solves solves' parsed fun type type' yields yields' => ?_
          rw [namedOver_reference kind] at yields yields'
          have plain : Recordlike schemas (.plain _) := .reference kind leads some_ atUse inside
          exact ⟨(plain.records solves).1 _ _ yields, (plain.records solves').1 _ _ yields',
            ih.1 _ _ _ yields yields'⟩
  | members typed each ih =>
      intro name types types' inside inside'
      rw [sourcesOver, sourcesOver, List.map_map, List.map_map]
      refine forall₂_map_eq (mapM_eq_some_iff.1 inside) (mapM_eq_some_iff.1 inside') ?_
      intro part inParts type type' own own'
      have among : part.1 ∈ (typedParts name 1 _).map Prod.fst := List.mem_map_of_mem inParts
      rw [map_fst_typedParts] at among
      exact ih part.1 among part.2 type type' own own'

end Layer

/-! ## One solution -/

/-- Over two solutions that runs leave, merges have all layers in common. -/
theorem mergesAlike_of_solves (outcome : Outcome schemas registry)
    (outcome' : Outcome schemas other) (solves : Solves schemas registry)
    (solves' : Solves schemas other) (n : Nat) : MergesAlike schemas registry other (· < n) := by
  induction n using Nat.strongRecOn with
  | ind n ih =>
      intro members name types types' inside inside' _
      have agree : ∀ m, m < n → ∀ {role}, Recordlike schemas role →
          role.OutlinesAgree schemas registry other m := fun m less _ recordlike =>
        Recordlike.agree solves solves' ((ih m less).typeOver fun _ => Nat.lt_of_succ_lt) recordlike
      constructor
      · refine Bool.eq_iff_iff.2 ⟨fun merges => ?_, fun merges => ?_⟩
        · exact (outcome.recordlike inside merges).records solves' _ _ inside'
        · exact (outcome'.recordlike inside' merges).records solves _ _ inside
      · intro merges m less
        exact agree m less (outcome.recordlike inside merges) _ _ _ inside inside'

/-- There is at most one solution that a run leaves. -/
theorem Solves.unique (solves : Solves schemas registry) (solves' : Solves schemas other)
    (outcome : Outcome schemas registry) (outcome' : Outcome schemas other) {type' : Ty}
    (parsed : componentSchema schemas name = .ok schema)
    (found : registry.get? name = some type) (found' : other.get? name = some type') :
    type.unreasoned = type'.unreasoned := by
  obtain ⟨own, anew, known, yields, same⟩ := solves name schema parsed
  obtain ⟨own', anew', known', yields', same'⟩ := solves' name schema parsed
  cases found.symm.trans known
  cases found'.symm.trans known'
  rw [← same, ← same', Ty.unreasoned_eq_iff]
  intro n
  have layer : Ty.outline n <$> namedOver schemas registry name schema =
      Ty.outline n <$> namedOver schemas other name schema :=
    (mergesAlike_of_solves outcome outcome' solves solves' (n + 1)).namedOver
      (fun _ => Nat.lt_of_succ_lt) (Nat.lt_succ_self n)
  rw [yields, yields'] at layer
  exact Option.some.inj layer

/-! ## The same solution -/

theorem unreasoned_bareMember : (bareMember type).unreasoned = bareMember type.unreasoned := by
  have some_ : ∀ members : List Ty, (members.map Ty.unreasoned).filter (!·.isNil) =
      (members.filter (!·.isNil)).map Ty.unreasoned := by
    intro members
    rw [List.filter_map]
    exact congrArg _ (List.filter_congr fun member _ => by cases member <;> rfl)
  cases type with
  | union union members =>
      cases union with
      | some name => rfl
      | none =>
          rw [Ty.unreasoned, Ty.unreasonedMembers_eq_map]
          unfold bareMember
          dsimp only
          rw [some_]
          generalize members.filter (!·.isNil) = kept
          match kept with
          | [only] => rfl
          | [] | _ :: _ :: _ => exact congrArg _ Ty.unreasonedMembers_eq_map
  | _ => rfl

theorem forall₂_of_outlines {types types' : List Ty}
    (same : ∀ n, types.map (Ty.outline n) = types'.map (Ty.outline n)) :
    List.Forall₂ (fun type type' => type.unreasoned = type'.unreasoned) types types' := by
  induction types generalizing types' with
  | nil =>
      cases types' with
      | nil => exact .nil
      | cons => cases same 0
  | cons type rest ih =>
      cases types' with
      | nil => cases same 0
      | cons type' rest' =>
          exact .cons (Ty.unreasoned_eq_iff.2 fun n => (List.cons.inj (same n)).1)
            (ih fun n => (List.cons.inj (same n)).2)

/-- Types that are records together, and then the same, but for the reasons of unknown
types. -/
def SameRecord (type type' : Ty) : Prop :=
  type.isRecord = type'.isRecord ∧ (type.isRecord = true → type.unreasoned = type'.unreasoned)

theorem SameRecord.mergeable {types types' : List Ty} (each : List.Forall₂ SameRecord types types') :
    mergeable types = Translation.mergeable types' := by
  have same : types.isEmpty = types'.isEmpty ∧ types.all Ty.isRecord = types'.all Ty.isRecord := by
    induction each with
    | nil => exact ⟨rfl, rfl⟩
    | cons head tail ih => exact ⟨rfl, by rw [List.all_cons, List.all_cons, head.1, ih.2]⟩
  rw [Translation.mergeable, Translation.mergeable, same.1, same.2]

theorem SameRecord.outlines {types types' : List Ty} {n : Nat}
    (each : List.Forall₂ SameRecord types types') (records : types.all Ty.isRecord = true) :
    types.map (Ty.outline n) = types'.map (Ty.outline n) := by
  induction each with
  | nil => rfl
  | cons head tail ih =>
      rw [List.all_cons, Bool.and_eq_true] at records
      rw [List.map_cons, List.map_cons, ih records.2,
        Ty.unreasoned_eq_iff.1 (head.2 records.1) n]

/-- Over registries with the same types, the same members merge in the same way. -/
theorem mergesAlike_of_agrees (agrees : registry.Agrees other) :
    MergesAlike schemas registry other fun _ => True := by
  intro members name types types' inside inside' same
  have sources : List.Forall₂ SameRecord (sourcesOver registry types) (sourcesOver other types') := by
    rw [sourcesOver, sourcesOver, List.forall₂_map_left_iff, List.forall₂_map_right_iff]
    refine (forall₂_of_outlines fun n => same n trivial).imp fun type type' same => ?_
    have bare : (bareMember type).unreasoned = (bareMember type').unreasoned := by
      rw [unreasoned_bareMember, unreasoned_bareMember, same]
    refine ⟨Bool.eq_iff_iff.2 ⟨fun record => ?_, fun record => ?_⟩, agrees.resolve bare⟩
    · rwa [← Ty.isRecord_unreasoned, ← agrees.resolve bare record, Ty.isRecord_unreasoned]
    · rwa [← Ty.isRecord_unreasoned, ← agrees.symm.resolve bare.symm record,
        Ty.isRecord_unreasoned]
  refine ⟨SameRecord.mergeable sources, fun merges n _ => SameRecord.outlines sources ?_⟩
  rw [mergeable, Bool.and_eq_true] at merges
  exact merges.2

/-- Registries with the same types solve the same equations. -/
theorem Solves.of_agrees (solves : Solves schemas registry) (agrees : registry.Agrees other) :
    Solves schemas other := by
  intro name schema parsed
  obtain ⟨type, anew, found, yields, same⟩ := solves name schema parsed
  obtain ⟨type', found', sameType⟩ := agrees.get? found
  have layers : ∀ n, Ty.outline n <$> namedOver schemas registry name schema =
      Ty.outline n <$> namedOver schemas other name schema := fun n =>
    (mergesAlike_of_agrees agrees).namedOver (fun _ => id) trivial
  rcases map_eq_map_cases (layers 0) with ⟨none, -⟩ | ⟨own, anew', yields', new, -⟩
  · cases none.symm.trans yields
  cases yields'.symm.trans yields
  refine ⟨type', anew', found', new, ?_⟩
  rw [← sameType, ← same, Ty.unreasoned_eq_iff]
  intro n
  have layer := layers n
  rw [yields, new] at layer
  exact (Option.some.inj layer).symm

end TypedContract.Translation
