/-
# TypedContract.Proofs.Translation.Embedding -- records that stay where they are met

Records are meant to be registered and referred to.  Two kinds of schemas give a record
in place all the same: an object that is translated without a context, and an `allOf`
whose members merge, in whatever context.  `Exposed` says that a schema became a type in
which such a record shows, and a type holds a record only in this way
(`exposed_of_hasRecord`).

The fields of a registered record need not be those of its own schema: a merge takes
them from other records, registered or not.  They are still types that some schema
became (`Derives.fieldsTold`).  So what a registered type holds below its root is read off
the schemas that its parts come from (`Translator.holdsRecord_iff_exposed`).
-/
import TypedContract.Proofs.Registry.Cycles
import TypedContract.Proofs.Translation.Hoisting
import TypedContract.Proofs.Translation.Order

namespace TypedContract

set_option autoImplicit false

/-! ## Records in types -/

namespace Ty

mutual

/-- The type is a record or holds one. -/
def hasRecord : Ty → Bool
  | .record _ _ _ => true
  | .array element => hasRecord element
  | .map value => hasRecord value
  | .union _ members => anyHasRecord members
  | _ => false

/-- One of the types is a record or holds one. -/
def anyHasRecord : List Ty → Bool
  | [] => false
  | member :: rest => hasRecord member || anyHasRecord rest

end

/-- The type holds a record below its root. -/
def holdsRecord : Ty → Bool
  | .record _ fields _ => fields.any fun field => field.type.hasRecord
  | .array element => element.hasRecord
  | .map value => value.hasRecord
  | .union _ members => anyHasRecord members
  | _ => false

/-- The types of the fields of a record. -/
def fieldTypes : Ty → List Ty
  | .record _ fields _ => fields.map Field.type
  | _ => []

/-- The types that a registered type is put together from: those of the fields of a record,
those of the members of a named union, and any other type by itself. -/
def parts : Ty → List Ty
  | .record _ fields _ => fields.map Field.type
  | .union (some _) members => members
  | type => [type]

theorem anyHasRecord_iff {types : List Ty} :
    anyHasRecord types = true ↔ ∃ type ∈ types, type.hasRecord = true := by
  induction types with
  | nil => simp [anyHasRecord]
  | cons type rest ih => simp [anyHasRecord, ih]

/-- A type holds a record when one of its parts is or holds one. -/
theorem holdsRecord_iff {type : Ty} :
    type.holdsRecord = true ↔ ∃ part ∈ type.parts, part.hasRecord = true := by
  cases type with
  | record name fields text => simp [holdsRecord, parts]
  | union name members => cases name <;> simp [holdsRecord, parts, hasRecord, anyHasRecord_iff]
  | _ => simp [holdsRecord, parts, hasRecord]

@[simp] theorem hasRecord_nil : nil.hasRecord = false := rfl

end Ty

namespace Translation

open Schema

variable {schemas : Node} {number : Nat} {contract : Json} {s t : Session}

@[simp] theorem hasRecord_withNil {nullable : Bool} {type : Ty} :
    (withNil nullable type).hasRecord = type.hasRecord := by
  unfold withNil
  split
  · simp [Ty.hasRecord, Ty.anyHasRecord]
  · rfl

/-! ## Schemas that show a record -/

/-- The schema, translated in the context to the type, shows a record in place. -/
inductive Exposed : Schema → String → Ty → Prop where
  /-- An object without a context is not hoisted. -/
  | object {schema : Schema} {fields : List (Field Ty)} {text : String}
      (kind : schema.facts.kind = .object) (properties : schema.properties ≠ []) :
      Exposed schema "" (.record none fields text)
  /-- The members of an `allOf` have merged. -/
  | merge {schema : Schema} {context : String} {fields : List (Field Ty)} {text : String}
      (kind : schema.facts.kind = .allOf) :
      Exposed schema context (.record (mergeName context) fields text)
  | item {schema item : Schema} {context : String} {type : Ty}
      (kind : schema.facts.kind = .array) (items : schema.items = some item)
      (inside : Exposed item (extend context "Item") type) : Exposed schema context (.array type)
  | value {schema value : Schema} {context : String} {type : Ty}
      (kind : schema.facts.kind = .object) (properties : schema.properties = [])
      (additional : schema.additional = some value)
      (inside : Exposed value (extend context "Value") type) : Exposed schema context (.map type)
  | alternative {schema : Schema} {context : String} {part : Schema × String} {type : Ty}
      {types : List Ty} (kind : schema.facts.kind = .union)
      (among : (part, type) ∈ (unionParts context 1 schema.members).zip types)
      (inside : Exposed part.1 part.2 type) : Exposed schema context (.union none types)
  /-- The only typed member of an `allOf` has not merged. -/
  | only {schema : Schema} {context : String} {part : Schema × String} {type : Ty}
      (kind : schema.facts.kind = .allOf)
      (among : (part, type) ∈ (typedParts (mergeName context) 1 schema.members).zip [type])
      (inside : Exposed part.1 part.2 type) : Exposed schema context (.union (mergeName context) [type])
  /-- The schema adds nil to the type. -/
  | nilable {schema : Schema} {context : String} {type : Ty}
      (nullable : schema.facts.nullable = true) (inside : Exposed schema context type) :
      Exposed schema context (.union none [type, .nil])

theorem Exposed.hasRecord {schema : Schema} {context : String} {type : Ty}
    (exposed : Exposed schema context type) : type.hasRecord = true := by
  induction exposed with
  | object | merge => rfl
  | item kind items inside ih => exact ih
  | value kind properties additional inside ih => exact ih
  | alternative kind among inside ih =>
      exact Ty.anyHasRecord_iff.2 ⟨_, (List.of_mem_zip among).2, ih⟩
  | only kind among inside ih => simp [Ty.hasRecord, Ty.anyHasRecord, ih]
  | nilable nullable inside ih => simp [Ty.hasRecord, Ty.anyHasRecord, ih]

theorem Exposed.withNil {schema : Schema} {context : String} {type : Ty}
    (exposed : Exposed schema context type) :
    Exposed schema context (Translation.withNil schema.facts.nullable type) := by
  unfold Translation.withNil
  split
  · rename_i adds
    exact .nilable (Bool.and_eq_true_iff.1 adds).1 exposed
  · exact exposed

/-- Where a type has a record, the schema shows it. -/
def Judgement.Exposes : Judgement → Prop
  | .schema subject context _ type _ | .bare subject context _ type _ =>
      type.hasRecord = true → Exposed subject context type
  | .each parts _ types _ => ∀ type ∈ types, type.hasRecord = true →
      ∃ part, (part, type) ∈ parts.zip types ∧ Exposed part.1 part.2 type
  | .combined _ name types _ type _ => type.hasRecord = true →
      (∃ fields text, type = .record name fields text) ∨
        ∃ only, types = [only] ∧ type = .union name [only] ∧ only.hasRecord = true
  | _ => True

theorem Derives.exposes {judgement : Judgement} (derived : Derives schemas judgement) :
    judgement.Exposes := by
  induction derived with simp only [Judgement.Exposes] at *
  | nilable inside ih =>
      rw [hasRecord_withNil]
      exact fun record => (ih record).withNil
  | scalar kind typed =>
      obtain ⟨values?, -, rfl⟩ := scalar_eq_ok typed
      intro record
      cases record
  | unresolved | untyped | openMap | hoistedBefore | hoisted | any | unsupported | refused =>
      intro record
      cases record
  | @reference schema context name s t known nilable kind leads registered atUse ih =>
      intro record
      unfold referenceType at record
      split at record <;> cases record
  | array kind items inside ih => exact fun record => .item kind items (ih record)
  | map kind properties additional inside ih =>
      exact fun record => .value kind properties additional (ih record)
  | record kind properties inside described ih => exact fun _ => .object kind properties
  | union kind inside ih =>
      intro record
      obtain ⟨type, member, held⟩ := Ty.anyHasRecord_iff.1 record
      obtain ⟨part, among, exposed⟩ := ih type member held
      exact .alternative kind among exposed
  | allOf kind inside merge ihInside ihMerge =>
      intro record
      -- a merge that is no record wraps its one member
      rcases ihMerge record with ⟨fields, text, rfl⟩ | ⟨only, rfl, rfl, held⟩
      · exact .merge kind
      · obtain ⟨part, among, exposed⟩ := ihInside only List.mem_cons_self held
        exact .only kind among exposed
  | eachNil => exact fun type member => absurd member List.not_mem_nil
  | eachCons head tail ihHead ihTail =>
      intro type member record
      rcases List.mem_cons.1 member with rfl | inside
      · exact ⟨_, List.mem_cons_self, ihHead record⟩
      · obtain ⟨part, among, exposed⟩ := ihTail type inside record
        exact ⟨part, List.mem_cons_of_mem _ among, exposed⟩
  | merged inside records described ih => exact fun _ => .inl ⟨_, _, rfl⟩
  | wrapped inside mixed ih =>
      intro record
      exact .inr ⟨_, rfl, rfl, by simpa [Ty.hasRecord, Ty.anyHasRecord] using record⟩

theorem exposed_of_hasRecord {schema : Schema} {context : String} {type : Ty}
    (became : Became schemas t schema context type) (record : type.hasRecord = true) :
    Exposed schema context type := by
  obtain ⟨s, u, derived, -⟩ := became
  exact derived.exposes record

/-! ## Fields that are told -/

/-- The type is what some schema became. -/
def Told (schemas : Node) (t : Session) (type : Ty) : Prop :=
  ∃ schema context, Became schemas t schema context type

theorem Told.later {t' : Session} {type : Ty} (told : Told schemas t type) (before : t.Before t') :
    Told schemas t' type := by
  obtain ⟨schema, context, became⟩ := told
  exact ⟨schema, context, became.later before⟩

/-- The fields that a merge takes from the type itself are told. -/
def FieldsTold (schemas : Node) (t : Session) (type : Ty) : Prop :=
  ∀ part ∈ (bareMember type).fieldTypes, Told schemas t part

theorem FieldsTold.later {t' : Session} {type : Ty} (tells : FieldsTold schemas t type)
    (before : t.Before t') :
    FieldsTold schemas t' type :=
  fun part member => (tells part member).later before

/-- A type without fields of its own or of a stripped member. -/
theorem fieldsTold_of_none {type : Ty} (none : (bareMember type).fieldTypes = []) :
    FieldsTold schemas t type := by
  intro part member
  rw [none] at member
  cases member

theorem fieldsTold_record {name : Option String} {fields : List (Field Ty)} {text : String}
    (told : ∀ field ∈ fields, Told schemas t field.type) :
    FieldsTold schemas t (.record name fields text) := by
  intro part member
  obtain ⟨field, inside, rfl⟩ := List.mem_map.1 member
  exact told field inside

theorem FieldsTold.fields {type : Ty} (tells : FieldsTold schemas t type) :
    ∀ part ∈ type.fieldTypes, Told schemas t part := by
  intro part member
  cases type with
  | record name fields text => exact tells part member
  | _ => cases member

theorem fieldsTold_union {types : List Ty} (each : ∀ type ∈ types, FieldsTold schemas t type) :
    FieldsTold schemas t (.union none types) := by
  intro part member
  unfold bareMember at member
  dsimp only at member
  split at member
  · rename_i only single
    have inside : only ∈ types.filter (!·.isNil) := by simp [single]
    exact (each only (List.mem_filter.1 inside).1).fields part member
  · cases member

theorem fieldsTold_withNil {nullable : Bool} {type : Ty} (tells : FieldsTold schemas t type) :
    FieldsTold schemas t (withNil nullable type) := by
  unfold withNil
  split
  · refine fieldsTold_union fun member inside => ?_
    obtain rfl | rfl : member = type ∨ member = .nil := by simpa using inside
    · exact tells
    · exact fieldsTold_of_none rfl
  · exact tells

/-- The registered types tell their fields. -/
def RegistryTells (schemas : Node) (s : Session) : Prop :=
  ∀ entry ∈ s.registry.entries, FieldsTold schemas s entry.2

theorem RegistryTells.of_entries (tells : RegistryTells schemas s) (before : s.Before t)
    (entries : t.registry.entries = s.registry.entries) : RegistryTells schemas t := by
  intro entry member
  rw [entries] at member
  exact (tells entry member).later before

theorem RegistryTells.begun {name : String} (tells : RegistryTells schemas s) :
    RegistryTells schemas (Run.begun s name) :=
  tells.of_entries .begun rfl

theorem RegistryTells.finished {name : String} {type : Ty} (tells : RegistryTells schemas t)
    (fresh : s.registry.contains name = false) (inside : (Run.begun s name).Grows t)
    (own : FieldsTold schemas t type) : RegistryTells schemas (Run.finished t name type) := by
  have before : t.Before (Run.finished t name type) := Session.Grows.before_finished fresh inside
  intro entry member
  rw [Session.Grows.entries_finished fresh inside] at member
  rcases List.mem_append.1 member with old | last
  · exact (tells entry old).later before
  · obtain rfl := List.mem_singleton.1 last
    exact own.later before

/-- The types that a part of a translation gives tell their fields. -/
def Judgement.FieldsTold (schemas : Node) : Judgement → Prop
  | .schema _ _ _ type t | .bare _ _ _ type t | .component _ _ type t | .named _ _ _ type t =>
      Translation.FieldsTold schemas t type
  | .each _ _ types t => ∀ type ∈ types, Translation.FieldsTold schemas t type
  | .fields _ _ _ _ found t => ∀ field ∈ found, Told schemas t field.type
  | .source type s given t => Translation.FieldsTold schemas s type →
      ∀ part ∈ given.fieldTypes, Told schemas t part
  | .sources types s given t => (∀ type ∈ types, Translation.FieldsTold schemas s type) →
      ∀ type ∈ given, ∀ part ∈ type.fieldTypes, Told schemas t part
  | .combined _ _ types s type t => (∀ type ∈ types, Translation.FieldsTold schemas s type) →
      Translation.FieldsTold schemas t type

/-- A translation over registered types that tell their fields keeps that, and gives types
that tell theirs. -/
theorem Derives.fieldsTold {judgement : Judgement} (derived : Derives schemas judgement)
    (start : RegistryTells schemas judgement.start) :
    RegistryTells schemas judgement.finish ∧ judgement.FieldsTold schemas := by
  induction derived with simp only [Judgement.start, Judgement.finish, Judgement.FieldsTold] at *
  | nilable inside ih => exact ⟨(ih start).1, fieldsTold_withNil (ih start).2⟩
  | scalar kind typed =>
      obtain ⟨values?, -, rfl⟩ := scalar_eq_ok typed
      exact ⟨start, fieldsTold_of_none rfl⟩
  | untyped | openMap | hoistedBefore | any => exact ⟨start, fieldsTold_of_none rfl⟩
  | unresolved | unsupported =>
      exact ⟨start.of_entries (Session.Grows.reported _ _ _ (by decide)).before rfl,
        fieldsTold_of_none rfl⟩
  | @reference schema context name s t known nilable kind leads registered atUse ih =>
      refine ⟨(ih start).1, ?_⟩
      unfold referenceType
      split
      · refine fieldsTold_union fun member inside => fieldsTold_of_none ?_
        obtain rfl | rfl : member = .reference name ∨ member = .nil := by simpa using inside
        · rfl
        · rfl
      · exact fieldsTold_of_none rfl
  | array kind items inside ih => exact ⟨(ih start).1, fieldsTold_of_none rfl⟩
  | map kind properties additional inside ih => exact ⟨(ih start).1, fieldsTold_of_none rfl⟩
  | record kind properties inside described ih =>
    exact ⟨(ih start).1, fieldsTold_record (ih start).2⟩
  | @hoisted schema context name s t fields text kind properties contextual anew unique inside
      described ih =>
      have hoists : HoistsRecord schemas schema context name s fields text t :=
        ⟨kind, properties, unique, inside, described⟩
      obtain ⟨after, told⟩ := ih (start.of_entries (Session.Grows.hoisting s name _).before rfl).begun
      exact ⟨after.finished hoists.fresh inside.grows (fieldsTold_record told),
        fieldsTold_of_none rfl⟩
  | union kind inside ih => exact ⟨(ih start).1, fieldsTold_union (ih start).2⟩
  | allOf kind inside merge ihInside ihMerge =>
      obtain ⟨middle, each⟩ := ihInside start
      exact ⟨(ihMerge middle).1, (ihMerge middle).2 each⟩
  | eachNil => exact ⟨start, fun type member => absurd member List.not_mem_nil⟩
  | eachCons head tail ihHead ihTail =>
      obtain ⟨middle, first⟩ := ihHead start
      obtain ⟨after, rest⟩ := ihTail middle
      exact ⟨after, List.forall_mem_cons.2 ⟨first.later tail.grows.before, rest⟩⟩
  | fieldsNil => exact ⟨start, fun field member => absurd member List.not_mem_nil⟩
  | fieldsCons head described tail ihHead ihTail =>
      obtain ⟨after, rest⟩ := ihTail (ihHead start).1
      exact ⟨after, List.forall_mem_cons.2 ⟨⟨_, _, _, _, head, tail.grows.before⟩, rest⟩⟩
  | @known name s type found =>
      refine ⟨start, ?_⟩
      rcases Registry.enter_eq_inl_iff.1 found with found | ⟨-, -, rfl⟩
      · exact start _ (Registry.mem_entries_of_get? found)
      · exact fieldsTold_of_none rfl
  | built fresh parsed inside ih =>
      obtain ⟨after, own⟩ := ih start.begun
      exact ⟨after.finished fresh inside.grows own,
        own.later (Session.Grows.before_finished fresh inside.grows)⟩
  | namedRecord kind properties inside described ih =>
      exact ⟨(ih start).1, fieldsTold_record (ih start).2⟩
  | namedMerge kind inside merge ihInside ihMerge =>
      obtain ⟨middle, each⟩ := ihInside start
      exact ⟨(ihMerge middle).1, (ihMerge middle).2 each⟩
  | namedUnion kind inside ih =>
      refine ⟨(ih start).1, ?_⟩
      unfold Translation.namedUnion
      split <;> exact fieldsTold_of_none rfl
  | namedOther record merge union inside ih => exact ih start
  | @settled type s stays =>
      refine ⟨start, fun given part member => ?_⟩
      -- a merge takes the fields of the member itself or those of a registered record
      rcases s.registry.resolve_cases (bareMember type) with same | ⟨name, found⟩
      · rw [same] at member
        exact given part member
      · exact (start _ (Registry.mem_entries_of_get? found)).fields part member
  | @rebuilt name schema type source s t meets rebuilds parsed inside ih =>
      have before : t.Before { t with rebuilding := t.rebuilding.filter (· != name) } :=
        .noted rfl rfl
      obtain ⟨after, own⟩ := ih (start.of_entries (.noted rfl rfl) rfl)
      exact ⟨after.of_entries before rfl, fun _ => (own.later before).fields⟩
  | sourcesNil => exact ⟨start, fun _ source member => absurd member List.not_mem_nil⟩
  | sourcesCons head tail ihHead ihTail =>
      obtain ⟨middle, first⟩ := ihHead start
      obtain ⟨after, rest⟩ := ihTail middle
      refine ⟨after, fun given => ?_⟩
      obtain ⟨own, others⟩ := List.forall_mem_cons.1 given
      refine List.forall_mem_cons.2
        ⟨fun part member => (first own part member).later tail.grows.before, ?_⟩
      exact rest fun type member => (others type member).later head.grows.before
  | merged inside records described ih =>
      obtain ⟨after, sources⟩ := ih start
      refine ⟨after, fun given => fieldsTold_record fun field member => ?_⟩
      obtain ⟨name, fields, text, here, within⟩ := mem_mergeFields member
      exact sources given _ here _ (List.mem_map_of_mem within)
  | @wrapped facts name only sources s t inside mixed ih =>
      refine ⟨(ih start).1, fun given => ?_⟩
      cases name with
      | none => exact fieldsTold_union fun type member =>
        (given type member).later inside.grows.before
      | some name => exact fieldsTold_of_none rfl
  | refused inside mixed several ih =>
      exact ⟨(ih start).1.of_entries (Session.Grows.reported _ _ _ (by decide)).before rfl,
        fun _ => fieldsTold_of_none rfl⟩

/-! ## Parts that are told -/

/-- A union with a name comes from a component only. -/
theorem Derives.ne_namedUnion {schema : Schema} {context name : String} {members : List Ty}
    {type : Ty} (derived : Derives schemas (.schema schema context s type t))
    (merge : schema.facts.kind ≠ .allOf) : type ≠ .union (some name) members := by
  rintro rfl
  obtain ⟨inner, shape, bare⟩ := derived.of_schema
  unfold Translation.withNil at shape
  split at shape
  · cases shape
  · subst shape
    generalize same : Ty.union (some name) members = inner at bare
    cases bare with
    | scalar kind typed =>
        obtain ⟨values?, -, rfl⟩ := scalar_eq_ok typed
        cases same
    | reference =>
        unfold referenceType at same
        split at same <;> cases same
    | allOf kind => exact merge kind
    | _ => cases same

/-- Whatever part of a component's type shows a record was told, unless the type is a
record itself. -/
theorem Derives.told_part {name : String} {schema : Schema} {type part : Ty}
    (derived : Derives schemas (.named name schema s type t)) (other : type.isRecord = false)
    (member : part ∈ type.parts) (record : part.hasRecord = true) : Told schemas t part := by
  have among : ∀ {parts types u}, Derives schemas (.each parts s types u) → u.Before t →
      part ∈ types → Told schemas t part := by
    intro parts types u each before inside
    obtain ⟨⟨subject, context⟩, -, v, w, -, earlier, own⟩ :=
      exists_of_forall₂_right each.of_each inside
    exact ⟨subject, context, v, w, own, earlier.trans before⟩
  cases derived with
  | namedRecord => cases other
  | namedMerge kind inside merge =>
      have before := merge.grows.before
      cases merge with
      | merged => cases other
      | wrapped => exact among inside before member
      | refused =>
          obtain rfl := List.mem_singleton.1 member
          cases record
  | namedUnion kind inside =>
      unfold Translation.namedUnion at member
      split at member
      · rcases List.mem_append.1 member with first | last
        · exact among inside (.refl t) first
        · obtain rfl := List.mem_singleton.1 last
          cases record
      · exact among inside (.refl t) member
  | namedOther _ merge _ inside =>
      -- only a union with a name has other parts, and it comes from no such schema
      have whole : type.parts = [type] := by
        cases type with
        | record => cases other
        | union name members =>
            cases name with
            | none => rfl
            | some name => exact absurd rfl (inside.ne_namedUnion merge)
        | _ => rfl
      rw [whole, List.mem_singleton] at member
      subst member
      exact ⟨schema, name, s, t, inside, .refl t⟩

/-- Whatever part of a registered type shows a record was told. -/
theorem told_of_registered {fits : Schema → Prop} (tells : RegistryTells schemas t)
    (traced : Traced schemas fits t) {entry : String × Ty} (registered : entry ∈ t.registry.entries)
    {part : Ty} (member : part ∈ entry.2.parts) (record : part.hasRecord = true) :
    Told schemas t part := by
  obtain ⟨name, type⟩ := entry
  cases kind : type.isRecord with
  | true =>
      cases type with
      | record => exact (tells _ registered).fields part member
      | _ => cases kind
  | false =>
      have origin : Registered schemas fits t name type := traced _ registered
      cases origin with
      | component builds before => exact (builds.inside.told_part kind member record).later before
      | hoisted => cases kind

end Translation

open Translation

namespace Translator

variable {number : Nat} {contract : Json} {translator : Translator} {s t : Session}

/-- When the components of a document are registered, a registered type holds a record below
its root exactly when one of its parts comes from a schema that shows one. -/
theorem holdsRecord_iff_exposed (fresh : s.registry = {}) (new : s.hoisted = [])
    (returned : Run.Returns (registerAll (.root number contract)) s translator t)
    {entry : String × Ty} (registered : entry ∈ t.registry.entries) :
    entry.2.holdsRecord = true ↔ ∃ part ∈ entry.2.parts, ∃ schema context,
      Became translator.schemas t schema context part ∧ Exposed schema context part := by
  obtain ⟨u, done, created, components⟩ := returns_registerAll returned
  have sound := sound_create created
  have prepared : Prepared translator.schemas number contract u :=
    prepared_create fresh new created
  have tells : RegistryTells translator.schemas u := by
    obtain ⟨-, -, names, -, rfl⟩ := returns_create created
    intro entry member
    rw [fresh] at member
    cases member
  obtain ⟨tells, prepared⟩ : RegistryTells translator.schemas t ∧
      Prepared translator.schemas number contract t :=
    @components_induction translator u t
      (fun u => RegistryTells translator.schemas u ∧ Prepared translator.schemas number contract u) _
      (fun kept returned => ⟨((sound.component returned).fieldsTold kept.1).1,
        kept.2.derived (sound.component returned) trivial⟩)
      components ⟨tells, prepared⟩
  rw [Ty.holdsRecord_iff]
  constructor
  · rintro ⟨part, member, record⟩
    obtain ⟨schema, context, became⟩ :=
      told_of_registered tells prepared.traced registered member record
    exact ⟨part, member, schema, context, became, exposed_of_hasRecord became record⟩
  · rintro ⟨part, member, schema, context, -, exposed⟩
    exact ⟨part, member, exposed.hasRecord⟩

/-- A record with a property that is an inline object. -/
def ownedPet : List (String × Json) :=
  [("Pet", .object [("properties", .object [("owner", .object [("properties",
    .object [("name", .object [("type", .str "string")])])])])])]

theorem holdsRecord_iff_exposed_pet : ∃ translator t entry,
    Run.Returns (registerAll (.root 0 (contractOf ownedPet))) {} translator t ∧
    entry ∈ t.registry.entries ∧ entry.1 = "Pet" ∧
    (entry.2.holdsRecord = true ↔ ∃ part ∈ entry.2.parts, ∃ schema context,
      Became translator.schemas t schema context part ∧ Exposed schema context part) := by
  have ok : ((registerAll (.root 0 (contractOf ownedPet))).passes {} fun _ t =>
      (t.registry.get? "Pet").isSome) = true := by decide +kernel
  obtain ⟨translator, t, returned, some_⟩ := Run.exists_returns_of ok
  obtain ⟨type, found⟩ := Option.isSome_iff_exists.1 some_
  have registered := Registry.mem_entries_of_get? found
  exact ⟨translator, t, _, returned, registered, rfl,
    holdsRecord_iff_exposed rfl rfl returned registered⟩

/-- A record with a property that is an `allOf` of an inline object. -/
def extendedProperty : List (String × Json) :=
  [("C", .object [("properties", .object [("p", .object [("allOf", .list [.object
    [("type", .str "object"), ("properties",
      .object [("q", .object [("type", .str "string")])])]])])])])]

/-- The property is merged in place, and its record is not registered. -/
theorem components_hold_record : ∃ translator t type,
    Run.Returns (registerAll (.root 0 (contractOf extendedProperty))) {} translator t ∧
    t.registry.entries = [("C", type)] ∧ type.holdsRecord = true := by
  have ok : ((registerAll (.root 0 (contractOf extendedProperty))).passes {} fun _ t =>
      t.registry.entries.map Prod.fst == ["C"] &&
        t.registry.entries.all fun entry => entry.2.holdsRecord) = true := by decide +kernel
  obtain ⟨translator, t, returned, both⟩ := Run.exists_returns_of ok
  rw [Bool.and_eq_true, beq_iff_eq, List.map_eq_singleton_iff] at both
  obtain ⟨⟨⟨name, type⟩, entries, rfl⟩, holds⟩ := both
  rw [entries, List.all_cons, List.all_nil, Bool.and_true] at holds
  exact ⟨translator, t, type, returned, entries, holds⟩

end Translator

end TypedContract
