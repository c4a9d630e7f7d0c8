/-
# TypedContract.Proofs.Translation.Accepting -- no value of a schema is lost

When nothing is in progress any more, the registry reads every type it was given or
gave: the types of all derivations on the way accept what their schemas accept
(`accepted`).  The induction is on the reading of the schema, and carries three
statements at once: the type of the schema accepts the value; the type that the schema
has as a component does, but for `null` where the component leaves it to its uses; and
a component that a merge meets through the schema and builds anew does, but for `null`
which a merge strips.
-/
import TypedContract.Proofs.Schema.Acceptance
import TypedContract.Proofs.Translation.Inversion
import TypedContract.Proofs.Ty.Acceptance
import Mathlib.Logic.Relation

namespace TypedContract.Translation

set_option autoImplicit false

open Schema

variable {schemas : Node} {number : Nat} {contract : Json} {final : Session}

/-! ## The end of a run -/

/-- Nothing is in progress, and what is registered has a chronicle. -/
structure Ended (schemas : Node) (number : Nat) (contract : Json) (final : Session) : Prop where
  document : schemas.Stands number contract
  idle : final.registry.building = []
  reserves : ReservesComponents schemas final.registry
  rightly : LeadsRightly schemas final.registry
  chronicle : Chronicle schemas number contract final

namespace Ended

variable {s t : Session} {name : String} {type : Ty}

theorem registered (ended : Ended schemas number contract final) (before : t.Before final)
    (held : t.registry.contains name = true) :
    ∃ type, final.registry.get? name = some type := by
  rcases Registry.contains_iff.1 (before.contains held) with found | building
  · exact found
  · rw [ended.idle] at building
    cases building

theorem reserves_before (ended : Ended schemas number contract final) (before : s.Before final) :
    ReservesComponents schemas s.registry := fun name held =>
  before.reserved ▸ ended.reserves name held

theorem rightly_before (ended : Ended schemas number contract final) (before : s.Before final) :
    LeadsRightly schemas s.registry := fun name type found =>
  ended.rightly name type (before.get? found)

end Ended

/-! ## Listed nothing -/

/-- A type that lists nothing accepts `null`. -/
def ListsNil (type : Ty) : Prop :=
  type.isNilable = true → ∀ registry, type.Accepts registry .null

/-- The types of schemas list nothing rightly, if those they are combined from do. -/
def Judgement.ListsNil : Judgement → Prop
  | .schema _ _ _ type _ | .bare _ _ _ type _ => Translation.ListsNil type
  | .each _ _ types _ => ∀ type ∈ types, Translation.ListsNil type
  | .combined _ _ types _ type _ => (∀ type ∈ types, Translation.ListsNil type) → Translation.ListsNil type
  | _ => True

theorem anyNilable_iff {types : List Ty} :
    Ty.anyNilable types = true ↔ ∃ type ∈ types, type.isNilable = true := by
  induction types with
  | nil => simp [Ty.anyNilable]
  | cons type rest ih => simp [Ty.anyNilable, ih]

theorem listsNil_union {union : Option String} {types : List Ty}
    (each : ∀ type ∈ types, ListsNil type) : ListsNil (.union union types) := by
  intro nilable registry
  obtain ⟨type, member, listed⟩ := anyNilable_iff.1 nilable
  exact .union member (each type member listed registry)

theorem listsNil_nil : ListsNil .nil := fun _ _ => Ty.accepts_nil

theorem listsNil_withNil {nullable : Bool} {type : Ty} (lists : ListsNil type) :
    ListsNil (withNil nullable type) := by
  unfold withNil
  split
  · refine listsNil_union fun member inside => ?_
    obtain rfl | rfl : member = type ∨ member = .nil := by simpa using inside
    · exact lists
    · exact listsNil_nil
  · exact lists

theorem Derives.listsNil {judgement : Judgement} (derived : Derives schemas judgement) :
    judgement.ListsNil := by
  induction derived with simp only [Judgement.ListsNil] at *
  | nilable inside ih => exact listsNil_withNil ih
  | scalar kind typed =>
      obtain ⟨values?, -, rfl⟩ := scalar_eq_ok typed
      simp [Translation.ListsNil, Ty.isNilable, scalar_of.1, scalarOf_ne_nil]
  | @reference schema context name s t known nilable kind leads registered atUse ih =>
      unfold referenceType
      split
      · refine listsNil_union fun member inside => ?_
        obtain rfl | rfl : member = .reference name ∨ member = .nil := by simpa using inside
        · intro nilable
          cases nilable
        · exact listsNil_nil
      · intro nilable
        cases nilable
  | unresolved | untyped | array | openMap | map | record | hoistedBefore | hoisted | any
  | unsupported => intro nilable; cases nilable
  | union kind inside ih => exact listsNil_union ih
  | allOf kind inside merge ihInside ihMerge => exact ihMerge ihInside
  | eachNil => exact fun type member => absurd member List.not_mem_nil
  | eachCons head tail ihHead ihTail =>
      rintro type (_ | ⟨_, member⟩)
      · exact ihHead
      · exact ihTail type member
  | merged inside records described ih => intro each nilable; cases nilable
  | wrapped inside mixed ih => exact listsNil_union
  | refused inside mixed several ih => intro each nilable; cases nilable

/-! ## Chains of references -/

/-- One name is registered with a reference to the next. -/
def Chain (registry : Registry) : String → String → Prop :=
  Relation.ReflTransGen fun first next => registry.get? first = some (.reference next)

theorem Chain.later {s t : Session} (before : s.Before t) {first last : String}
    (chain : Chain s.registry first last) : Chain t.registry first last :=
  Relation.ReflTransGen.mono (fun _ _ found => before.get? found) _ _ chain

/-- A reference that is left when references were followed ends a chain. -/
theorem chain_of_follow {registry : Registry} {seen : List String} {bound : Nat} {type : Ty}
    {last : String} (left : registry.follow seen bound type = .reference last) :
    ∃ first, type = .reference first ∧ Chain registry first last := by
  induction bound generalizing seen type with
  | zero =>
      cases type <;> simp only [Registry.follow] at left <;> cases left
      exact ⟨last, rfl, .refl⟩
  | succ bound ih =>
      cases type with
      | reference name =>
          unfold Registry.follow at left
          split at left
          · cases left
            exact ⟨last, rfl, .refl⟩
          · split at left
            · rename_i target found
              obtain ⟨next, rfl, chain⟩ := ih left
              exact ⟨name, rfl, .head found chain⟩
            · cases left
              exact ⟨last, rfl, .refl⟩
      | _ => cases left

/-- A chain goes no further than a record. -/
theorem Chain.eq_of_record {registry : Registry} {first last : String} {type : Ty}
    (chain : Chain registry first last) (found : registry.get? first = some type)
    (record : type.isRecord = true) : first = last := by
  rcases Relation.ReflTransGen.cases_head chain with same | ⟨next, step, -⟩
  · exact same
  · cases found.symm.trans step
    cases record

/-- Nothing that a schema adds hides a reference from a merge. -/
theorem bareMember_withNil {nullable : Bool} {type : Ty} {first : String}
    (meets : bareMember (withNil nullable type) = .reference first) :
    bareMember type = .reference first := by
  unfold withNil at meets
  split at meets
  · rename_i adds
    simp only [Bool.and_eq_true, Bool.not_eq_true'] at adds
    have kept : [type, Ty.nil].filter (!·.isNil) = [type] := by
      rw [List.filter_cons_of_pos (by simp [isNil_of_isNilable_false adds.2])]
      rfl
    rw [bareMember] at meets
    simp only [kept] at meets
    rw [meets]
    rfl
  · exact meets

/-- The member that accepts a value is the one that a union is stripped to. -/
theorem stripped_member {union : Option String} {types : List Ty} {type : Ty} {first : String}
    {registry : Registry} {value : Json}
    (meets : bareMember (.union union types) = .reference first) (held : type ∈ types)
    (accepted : type.Accepts registry value) (some_ : value ≠ .null) :
    bareMember type = .reference first := by
  cases union with
  | some name => cases meets
  | none =>
      have kept : type ∈ types.filter (!·.isNil) := by
        refine List.mem_filter.2 ⟨held, ?_⟩
        cases nil : type.isNil with
        | true => exact absurd (accepted.eq_null_of_isNil nil) some_
        | false => rfl
      unfold bareMember at meets
      dsimp only at meets
      split at meets
      · rename_i only single
        rw [single] at kept
        obtain rfl := List.mem_singleton.1 kept
        rw [meets]
        rfl
      · cases meets

/-! ## What is carried through the reading of a schema -/

/-- The schema leaves `null` to the uses of the component that it is. -/
def NilAtUse (schema : Schema) : Prop :=
  schema.facts.nullable = true ∧
    (schema.facts.kind = .allOf ∨ schema.facts.kind = .object ∧ schema.properties ≠ [])

/-- A value of the schema is kept by all types that come from it. -/
structure Kept (schemas : Node) (final : Session) (schema : Schema) (value : Json) : Prop where
  accepts : ∀ {context s type t}, Derives schemas (.schema schema context s type t) →
    t.Before final → type.Accepts final.registry value
  named : ∀ {name s type t}, Derives schemas (.named name schema s type t) → t.Before final →
    (value = .null → ¬ NilAtUse schema) → type.Accepts final.registry value
  rebuilt : value ≠ .null →
    ∀ {context s type t}, Derives schemas (.schema schema context s type t) → t.Before final →
    ∀ {first last component s' source t'}, bareMember type = .reference first →
      Chain final.registry first last → componentSchema schemas last = .ok component →
      Derives schemas (.named last component s' source t') → t'.Before final →
      source.Accepts final.registry value

variable {schema : Schema} {value : Json}

/-- The source that a schema gives to a merge accepts the value. -/
theorem Kept.source (kept : Kept schemas final schema value) (some_ : value ≠ .null)
    {context : String} {s t s' t' : Session} {type source : Ty}
    (derived : Derives schemas (.schema schema context s type t)) (before : t.Before final)
    (given : Derives schemas (.source type s' source t')) (after : t'.Before final) :
    source.Accepts final.registry value := by
  cases given with
  | settled stays =>
      exact (Ty.accepts_resolve after.entries).2
        (accepts_bareMember (kept.accepts derived before) some_)
  | @rebuilt name component _ _ _ u meets rebuilds parsed inside =>
      obtain ⟨first, same, chain⟩ := chain_of_follow meets
      have inner : u.Before final := after.of_noted rfl rfl
      have start : s'.Before final := (inside.grows.before.trans inner).of_noted rfl rfl
      exact kept.rebuilt some_ derived before same (chain.later start) parsed inside inner

/-- The members of an `allOf` keep the value, so its combination does. -/
theorem accepts_combined (ended : Ended schemas number contract final) {name : Option String}
    {members : List Schema} {facts : Facts} {s t u : Session} {types : List Ty} {type : Ty}
    (each : Derives schemas (.each (typedParts name 1 members) s types t))
    (merge : Derives schemas (.combined facts name types t type u)) (before : u.Before final)
    (kept : ∀ member ∈ members, Kept schemas final member value)
    (merges : value = .null → ¬ Recordlike schemas (.members members)) :
    type.Accepts final.registry value := by
  have middle : t.Before final := merge.grows.before.trans before
  have start : s.Before final := each.grows.before.trans middle
  obtain ⟨rightly, leadsAs⟩ :=
    each.leadsToRecords (ended.reserves_before start) (ended.rightly_before start)
  have combined := (merge.leadsToRecords (ended.reserves_before middle) rightly).2
  cases merge with
  | merged inside records described =>
      have some_ : value ≠ .null := by
        intro null
        rcases combined with ⟨-, nonempty, leads⟩ | ⟨only, -, same⟩ | ⟨reason, same⟩
        · exact merges null (recordlike_members leadsAs nonempty leads)
        · cases same
        · cases same
      refine accepts_merged records fun source member => ?_
      obtain ⟨type, held, u', v', -, -, after, given⟩ :=
        exists_of_forall₂_right inside.of_sources member
      obtain ⟨member, among, context, u'', v'', earlier, derived⟩ := each.of_typed held
      exact (kept member among).source some_ derived (earlier.trans middle) given
        (after.trans before)
  | wrapped inside mixed =>
      obtain ⟨member, among, context, u', v', earlier, derived⟩ := each.of_typed List.mem_cons_self
      exact .union List.mem_cons_self ((kept member among).accepts derived (earlier.trans middle))
  | refused inside mixed several => exact .unknown

/-- The properties of an object keep the values of its fields. -/
theorem accepts_fields {name : Option String} {required : List Json}
    {properties : List (String × Schema)} {s t : Session} {fields : List (Field Ty)}
    {entries : List (String × Json)}
    (derived : Derives schemas (.fields name required properties s fields t))
    (before : t.Before final)
    (present : ∀ property ∈ properties, required.any (Json.same (.str property.1)) = true →
      (Json.find? property.1 entries).isSome = true)
    (kept : ∀ property ∈ properties, ∀ value, Json.find? property.1 entries = some value →
      Kept schemas final property.2 value) :
    ∀ field ∈ fields, (field.required = true → (Json.find? field.name entries).isSome = true) ∧
      ∀ value, Json.find? field.name entries = some value →
        field.type.Accepts final.registry value := by
  induction properties generalizing s fields with
  | nil =>
      cases derived with
      | fieldsNil => exact fun field member => absurd member List.not_mem_nil
  | cons property properties ih =>
      cases derived with
      | fieldsCons head described tail =>
          rintro field (_ | ⟨_, member⟩)
          · exact ⟨present _ List.mem_cons_self, fun value found =>
              (kept _ List.mem_cons_self value found).accepts head (tail.grows.before.trans before)⟩
          · exact ih tail (fun other inside => present other (List.mem_cons_of_mem _ inside))
              (fun other inside => kept other (List.mem_cons_of_mem _ inside)) field member

theorem accepts_record {name record : Option String} {text : String} {required : List Json}
    {properties : List (String × Schema)} {s t : Session} {fields : List (Field Ty)}
    {entries : List (String × Json)}
    (derived : Derives schemas (.fields name required properties s fields t))
    (before : t.Before final)
    (present : ∀ property ∈ properties, required.any (Json.same (.str property.1)) = true →
      (Json.find? property.1 entries).isSome = true)
    (kept : ∀ property ∈ properties, ∀ value, Json.find? property.1 entries = some value →
      Kept schemas final property.2 value) :
    (Ty.record record fields text).Accepts final.registry (.object entries) :=
  .record (fun field member => (accepts_fields derived before present kept field member).1)
    fun field member => (accepts_fields derived before present kept field member).2

/-- A member of a union keeps the value, so the union of its types does. -/
theorem accepts_member {parts : List (Schema × String)} {s t : Session}
    {types : List Ty} {member : Schema} (derived : Derives schemas (.each parts s types t))
    (before : t.Before final) (among : member ∈ parts.map Prod.fst)
    (kept : Kept schemas final member value) :
    ∃ type ∈ types, type.Accepts final.registry value ∧
      ∃ context u v, Derives schemas (.schema member context u type v) ∧ v.Before final := by
  obtain ⟨part, inParts, rfl⟩ := List.mem_map.1 among
  obtain ⟨type, held, u, v, -, earlier, inside⟩ := exists_of_forall₂_left derived.of_each inParts
  exact ⟨type, held, kept.accepts inside (earlier.trans before), _, u, v, inside,
    earlier.trans before⟩

/-! ## Scalars -/

theorem scalarOf_admits {kind : Kind} {name : String} {value : Json}
    (admitted : kind.admits value = true) : (scalarOf kind name).admits value = true := by
  unfold scalarOf
  split <;> cases value <;> simp_all [Kind.admits, Scalar.admits]

theorem scalarOf_eq_int32 {kind : Kind} {name : String} (same : scalarOf kind name = .int32) :
    kind = .integer ∧ name = "int32" := by
  unfold scalarOf at same
  split at same <;> simp_all

/-- The primitive of a scalar schema admits what the schema admits. -/
theorem scalar_admits {facts : Facts} {type : Ty} {value : Json} {registry : Registry}
    (typed : Translation.scalar facts = .ok type) (admitted : facts.admits value = true) :
    type.Accepts registry value := by
  obtain ⟨values?, listed, rfl⟩ := scalar_eq_ok typed
  simp only [Facts.admits, Bool.and_eq_true] at admitted
  obtain ⟨⟨kind, format⟩, lists⟩ := admitted
  refine .primitive ?_
  simp only [Primitive.admits, Bool.and_eq_true]
  refine ⟨⟨?_, ?_⟩, ?_⟩
  · rw [scalar_of.1]
    exact scalarOf_admits kind
  · cases value with
    | int n =>
        generalize found : scalarOf facts.kind (formatName facts.format) = kept
        cases kept with
        | int32 =>
            obtain ⟨integer, named⟩ := scalarOf_eq_int32 found
            have text : facts.format = .str "int32" := by
              unfold formatName at named
              split at named
              · rename_i name same
                rw [same, named]
              · exact absurd named (by decide)
            simpa [Facts.inFormat, integer, text, Primitive.inRange, Primitive.of] using format
        | _ => rfl
    | _ => rfl
  · unfold Primitive.lists
    unfold Facts.lists at lists
    rw [listed] at lists
    cases values? with
    | none => rfl
    | some values => exact lists
/-! ## One schema at a time -/

/-- The type of a schema is looked at without the nil that the schema adds. -/
theorem Kept.of_bare
    (bare : ∀ {context s type t}, Derives schemas (.bare schema context s type t) →
      t.Before final → type.Accepts final.registry value)
    (named : ∀ {name s type t}, Derives schemas (.named name schema s type t) →
      t.Before final → type.Accepts final.registry value)
    (rebuilt : value ≠ .null →
      ∀ {context s type t}, Derives schemas (.bare schema context s type t) → t.Before final →
      ∀ {first last component s' source t'}, bareMember type = .reference first →
        Chain final.registry first last → componentSchema schemas last = .ok component →
        Derives schemas (.named last component s' source t') → t'.Before final →
        source.Accepts final.registry value) : Kept schemas final schema value := by
  refine ⟨fun derived before => ?_, fun derived before _ => named derived before,
    fun some_ _ _ _ _ derived before _ _ _ _ _ _ meets => ?_⟩
  · obtain ⟨inner, rfl, inside⟩ := derived.of_schema
    exact accepts_withNil (bare inside before)
  · obtain ⟨inner, rfl, inside⟩ := derived.of_schema
    exact rebuilt some_ inside before (bareMember_withNil meets)

/-- A schema that is no combination and no object with properties, and whose type is not
stripped to a reference. -/
theorem Kept.of_plain (record : schema.facts.kind = .object → schema.properties = [])
    (merge : schema.facts.kind ≠ .allOf) (union : schema.facts.kind ≠ .union)
    (bare : ∀ {context s type t}, Derives schemas (.bare schema context s type t) →
      t.Before final → type.Accepts final.registry value ∧
        ∀ first, bareMember type ≠ .reference first) : Kept schemas final schema value := by
  refine .of_bare (fun derived before => (bare derived before).1) (fun derived before => ?_)
    fun _ _ _ _ _ derived before _ _ _ _ _ _ meets => absurd meets ((bare derived before).2 _)
  obtain ⟨inner, rfl, inside⟩ := (derived.named_other record merge union).of_schema
  exact accepts_withNil (bare inside before).1

/-- A schema that says so has `null` among its values. -/
theorem kept_null (nullable : schema.facts.nullable = true) :
    Kept schemas final schema .null := by
  have accepts : ∀ {context s type t}, Derives schemas (.schema schema context s type t) →
      type.Accepts final.registry .null := by
    intro context s type t derived
    obtain ⟨inner, rfl, inside⟩ := derived.of_schema
    rw [nullable]
    exact accepts_withNil_null fun listed => inside.listsNil listed _
  refine ⟨fun derived _ => accepts derived, fun derived before atUse => ?_,
    fun some_ => absurd rfl some_⟩
  have apart : ¬ NilAtUse schema := atUse rfl
  cases derived with
  | namedRecord kind properties => exact absurd ⟨nullable, .inr ⟨kind, properties⟩⟩ apart
  | namedMerge kind => exact absurd ⟨nullable, .inl kind⟩ apart
  | namedUnion kind inside =>
      unfold Translation.namedUnion
      rw [nullable, Bool.true_and]
      split
      · exact .union (List.mem_append_right _ List.mem_cons_self) Ty.accepts_nil
      · rename_i keeps
        exact listsNil_union inside.listsNil (by simpa using keeps) _
  | namedOther _ _ _ inside => exact accepts inside

theorem kept_scalar (kind : isScalarKind schema.facts.kind = true)
    (admitted : schema.facts.admits value = true) : Kept schemas final schema value := by
  have apart : ∀ other, isScalarKind other = false → schema.facts.kind ≠ other := by
    rintro other none rfl
    cases kind.symm.trans none
  refine .of_plain (fun object => absurd object (apart _ rfl)) (apart _ rfl) (apart _ rfl)
    fun derived _ => ?_
  have typed := (derived.of_scalar kind).1
  refine ⟨scalar_admits typed admitted, ?_⟩
  obtain ⟨values?, -, rfl⟩ := scalar_eq_ok typed
  exact nofun

theorem kept_array {items : List Json} (kind : schema.facts.kind = .array)
    (each : ∀ inner, schema.items = some inner → ∀ item ∈ items,
      Kept schemas final inner item) : Kept schemas final schema (.list items) := by
  refine .of_plain (by simp [kind]) (by simp [kind]) (by simp [kind]) fun derived before => ?_
  rcases derived.of_array kind with ⟨-, -, rfl⟩ | ⟨inner, element, here, rfl, inside⟩
  · exact ⟨.array fun _ _ => .unknown, nofun⟩
  · exact ⟨.array fun item member => (each inner here item member).accepts inside before, nofun⟩

theorem kept_map {entries : List (String × Json)} (kind : schema.facts.kind = .object)
    (properties : schema.properties = [])
    (each : ∀ inner, schema.additional = some inner → ∀ entry ∈ entries,
      Kept schemas final inner entry.2) : Kept schemas final schema (.object entries) := by
  refine .of_plain (fun _ => properties) (by simp [kind]) (by simp [kind])
    fun derived before => ?_
  rcases derived.of_map kind properties with ⟨-, -, rfl⟩ | ⟨inner, element, here, rfl, inside⟩
  · exact ⟨.map fun _ _ => .unknown, nofun⟩
  · exact ⟨.map fun entry member => (each inner here entry member).accepts inside before, nofun⟩

theorem kept_any (kind : schema.facts.kind = .any) : Kept schemas final schema value := by
  refine .of_plain (by simp [kind]) (by simp [kind]) (by simp [kind]) fun derived _ => ?_
  obtain ⟨reason, rfl⟩ := derived.of_any kind
  exact ⟨.unknown, nofun⟩

theorem kept_unresolved (kind : schema.facts.kind = .reference)
    (nowhere : target? schemas schema.facts = .ok none) : Kept schemas final schema value := by
  refine .of_plain (by simp [kind]) (by simp [kind]) (by simp [kind]) fun derived _ => ?_
  rcases derived.of_reference kind with ⟨-, reason, rfl⟩ | ⟨name, _, _, leads, -⟩
  · exact ⟨.unknown, nofun⟩
  · cases nowhere.symm.trans leads

/-- The record hoisted before is that of the schema at its place. -/
theorem Ended.hoistedBefore (ended : Ended schemas number contract final)
    (stands : schema.IsPartOf number contract) {context : String} {s : Session}
    (before : s.Before final) (hoisted : isHoisted s context schema.facts.node.place = true) :
    schemas.value.holds context ≠ .ok true ∧ ∃ u v fields text,
      final.registry.get? context = some (.record (some context) fields text) ∧
      Derives schemas
        (.fields (some context) schema.facts.required schema.properties u fields v) ∧
      v.Before final := by
  simp only [isHoisted, Bool.and_eq_true, beq_iff_eq] at hoisted
  obtain ⟨⟨placed, listed⟩, held⟩ := hoisted
  obtain ⟨place, same⟩ := Option.isSome_iff_exists.1 placed
  have given : (context, some place) ∈ final.hoisted := by
    obtain ⟨front, back, split, -⟩ := List.lookup_eq_some_iff.1 listed
    exact before.hoisted.subset (by simp [split, same])
  obtain ⟨type, found⟩ := ended.registered before held
  obtain ⟨other, u, v, fields, text, otherStands, otherPlaced, derived, rfl, earlier⟩ :=
    ended.chronicle.hoisted given found
  obtain rfl := stands.eq_of_place otherStands same otherPlaced
  exact ⟨ended.chronicle.apart given, u, v, fields, text, found, derived, earlier⟩

/-- The type of an inline object is its record, or a name of no component under which
its record is registered. -/
theorem Ended.object (ended : Ended schemas number contract final)
    (stands : schema.IsPartOf number contract) (kind : schema.facts.kind = .object)
    (properties : schema.properties ≠ []) {context : String} {s t : Session} {type : Ty}
    (derived : Derives schemas (.bare schema context s type t)) (before : t.Before final) :
    ∃ name u v fields text, Derives schemas
        (.fields name schema.facts.required schema.properties u fields v) ∧ v.Before final ∧
      (type = .record name fields text ∨ ∃ hoisted, type = .reference hoisted ∧
        schemas.value.holds hoisted ≠ .ok true ∧
        final.registry.get? hoisted = some (.record name fields text)) := by
  rcases derived.of_object kind properties with ⟨-, fields, text, rfl, -, inside⟩ |
    ⟨-, rfl, rfl, hoisted⟩ | ⟨name, fields, text, u, -, rfl, -, unique, -, inside, rfl⟩
  · exact ⟨none, s, t, fields, text, inside, before, .inl rfl⟩
  · obtain ⟨apart, u, v, fields, text, found, inside, earlier⟩ :=
      ended.hoistedBefore stands before hoisted
    exact ⟨some context, u, v, fields, text, inside, earlier, .inr ⟨context, rfl, apart, found⟩⟩
  · obtain ⟨fresh, free⟩ := hoisting_unused unique schema.facts.node.place
    have start : s.Before final := derived.grows.before.trans before
    have middle := (Session.Grows.before_finished fresh inside.grows).trans before
    refine ⟨some name, _, u, fields, text, inside, middle, .inr ⟨name, rfl, ?_, ?_⟩⟩
    · exact fun held => free (ended.reserves_before start name held)
    · exact before.get? (Session.Grows.get?_finished fresh inside.grows)

theorem kept_object (ended : Ended schemas number contract final)
    (stands : schema.IsPartOf number contract) {entries : List (String × Json)}
    (kind : schema.facts.kind = .object) (properties : schema.properties ≠ [])
    (present : ∀ property ∈ schema.properties,
      schema.facts.required.any (Json.same (.str property.1)) = true →
        (Json.find? property.1 entries).isSome = true)
    (kept : ∀ property ∈ schema.properties, ∀ value, Json.find? property.1 entries = some value →
      Kept schemas final property.2 value) : Kept schemas final schema (.object entries) := by
  refine .of_bare (fun derived before => ?_) (fun derived before => ?_)
    fun _ _ _ _ _ derived before _ _ _ _ _ _ meets chain parsed _ _ => ?_
  · obtain ⟨name, u, v, fields, text, inside, earlier, rfl | ⟨hoisted, rfl, -, found⟩⟩ :=
      ended.object stands kind properties derived before
    · exact accepts_record inside earlier present kept
    · exact .reference found (accepts_record inside earlier present kept)
  · obtain ⟨fields, text, rfl, -, inside⟩ := derived.named_object kind properties
    exact accepts_record inside before present kept
  · -- No merge builds a hoisted record anew: its name is that of no component.
    obtain ⟨name, u, v, fields, text, -, -, rfl | ⟨hoisted, rfl, apart, found⟩⟩ :=
      ended.object stands kind properties derived before
    · cases meets
    · cases meets
      rw [chain.eq_of_record found rfl] at apart
      exact absurd (holds_of_componentSchema parsed) apart

theorem kept_union {member : Schema} (kind : schema.facts.kind = .union)
    (among : member ∈ schema.members) (kept : Kept schemas final member value) :
    Kept schemas final schema value := by
  refine .of_bare (fun derived before => ?_) (fun derived before => ?_)
    fun some_ _ _ _ _ derived before _ _ _ _ _ _ meets chain parsed rebuilt after => ?_
  · obtain ⟨types, rfl, inside⟩ := derived.of_union kind
    obtain ⟨type, held, accepted, -⟩ :=
      accepts_member inside before (by rwa [map_fst_unionParts]) kept
    exact .union held accepted
  · obtain ⟨types, rfl, inside⟩ := derived.named_union kind
    obtain ⟨type, held, accepted, -⟩ :=
      accepts_member inside before (by rwa [map_fst_numberedParts]) kept
    unfold Translation.namedUnion
    split
    · exact .union (List.mem_append_left _ held) accepted
    · exact .union held accepted
  · obtain ⟨types, rfl, inside⟩ := derived.of_union kind
    obtain ⟨type, held, accepted, context, u, v, own, earlier⟩ :=
      accepts_member inside before (by rwa [map_fst_unionParts]) kept
    exact kept.rebuilt some_ own earlier (stripped_member meets held accepted some_) chain parsed
      rebuilt after

theorem kept_allOf (ended : Ended schemas number contract final)
    (kind : schema.facts.kind = .allOf)
    (kept : ∀ member ∈ schema.members, Kept schemas final member value)
    (merges : value = .null → ¬ Merges schemas schema) : Kept schemas final schema value := by
  have apart : value = .null → ¬ Recordlike schemas (.members schema.members) :=
    fun null members => merges null ⟨kind, members⟩
  refine .of_bare (fun derived before => ?_) (fun derived before => ?_)
    fun some_ _ _ _ _ derived before _ _ _ _ _ _ meets chain parsed rebuilt after => ?_
  · obtain ⟨types, u, each, merge⟩ := derived.of_allOf kind
    exact accepts_combined ended each merge before kept apart
  · obtain ⟨types, u, each, merge⟩ := derived.named_allOf kind
    exact accepts_combined ended each merge before kept apart
  · obtain ⟨types, u, each, merge⟩ := derived.of_allOf kind
    cases merge with
    | merged => cases meets
    | wrapped inside mixed =>
        obtain ⟨member, among, context, u', v', earlier, own⟩ := each.of_typed List.mem_cons_self
        have inner := earlier.trans (inside.grows.before.trans before)
        have accepted := (kept member among).accepts own inner
        exact (kept member among).rebuilt some_ own inner
          (stripped_member meets List.mem_cons_self accepted some_) chain parsed rebuilt after
    | refused => cases meets

theorem bareMember_referenceType {nilable : Bool} {name : String} :
    bareMember (referenceType nilable name) = .reference name := by
  cases nilable <;> rfl

/-- The component says whether it leaves `null` to its uses. -/
theorem not_nilAtUse {component : Schema} {name : String}
    (parsed : componentSchema schemas name = .ok component)
    (atUse : admitsNilAtUse schemas name = .ok false) : ¬ NilAtUse component := by
  rintro ⟨nullable, kinds⟩
  unfold admitsNilAtUse at atUse
  obtain ⟨node, found, same⟩ := except_bind_eq_ok.1 parsed
  simp only [found, same, bind, Except.bind, nullable, Bool.not_true, Bool.false_eq_true, if_false,
    pure, Except.pure, Except.ok.injEq] at atUse
  rcases kinds with merge | ⟨object, properties⟩
  · simp [Schema.kind, merge] at atUse
  · simp [Schema.kind, object, properties] at atUse

/-- A reference accepts what its component keeps. -/
theorem accepts_bare_reference (ended : Ended schemas number contract final)
    {component : Schema} {context name : String} {s t : Session} {type : Ty}
    (kind : schema.facts.kind = .reference) (leads : target? schemas schema.facts = .ok (some name))
    (parsed : componentSchema schemas name = .ok component)
    (kept : Kept schemas final component value)
    (derived : Derives schemas (.bare schema context s type t)) (before : t.Before final) :
    type.Accepts final.registry value := by
  rcases derived.of_reference kind with ⟨nowhere, -⟩ | ⟨other, known, nilable, leads', registered,
    atUse, rfl⟩
  · cases nowhere.symm.trans leads
  cases leads.symm.trans leads'
  obtain ⟨type, found⟩ := ended.registered before registered.contains
  obtain ⟨own, u, v, parsed', named, earlier⟩ :=
    ended.chronicle.component found (holds_of_target leads)
  cases parsed.symm.trans parsed'
  have accepts : (value = .null → ¬ NilAtUse component) →
      (Ty.reference name).Accepts final.registry value :=
    fun atUse => .reference found (kept.named named earlier atUse)
  cases nilable with
  | false => exact accepts fun _ => not_nilAtUse parsed atUse
  | true =>
      by_cases null : value = .null
      · subst null
        exact .union (List.mem_cons_of_mem _ List.mem_cons_self) Ty.accepts_nil
      · exact .union List.mem_cons_self (accepts fun same => absurd same null)

theorem kept_reference (ended : Ended schemas number contract final) {component : Schema}
    {name : String} (kind : schema.facts.kind = .reference)
    (leads : target? schemas schema.facts = .ok (some name))
    (parsed : componentSchema schemas name = .ok component)
    (kept : Kept schemas final component value) : Kept schemas final schema value := by
  have held : schemas.value.holds name = .ok true := holds_of_target leads
  have bare {context : String} {s : Session} {type : Ty} {t : Session}
      (derived : Derives schemas (.bare schema context s type t)) (before : t.Before final) :
      type.Accepts final.registry value :=
    accepts_bare_reference ended kind leads parsed kept derived before
  refine .of_bare bare (fun derived before => ?_)
    fun some_ _ _ _ _ derived before first last _ _ _ _ meets chain built rebuilt after => ?_
  · obtain ⟨inner, rfl, inside⟩ :=
      (derived.named_other (by simp [kind]) (by simp [kind]) (by simp [kind])).of_schema
    exact accepts_withNil (bare inside before)
  · rcases derived.of_reference kind with ⟨-, reason, rfl⟩ | ⟨other, known, nilable, leads',
      registered, atUse, rfl⟩
    · cases meets
    · cases leads.symm.trans leads'
      rw [bareMember_referenceType] at meets
      cases meets
      rcases Relation.ReflTransGen.cases_head chain with rfl | ⟨next, step, rest⟩
      · cases parsed.symm.trans built
        exact kept.named rebuilt after fun null => absurd null some_
      · -- An alias: the component is a reference itself, and the chain goes on from there.
        obtain ⟨own, u, v, parsed', named, earlier⟩ := ended.chronicle.component step held
        cases parsed.symm.trans parsed'
        generalize same : Ty.reference next = type at named
        cases named with
        | namedRecord => cases same
        | namedMerge _ _ merge =>
            cases same
            cases merge
        | namedUnion =>
            unfold Translation.namedUnion at same
            split at same <;> cases same
        | namedOther _ _ _ inside =>
            cases same
            exact kept.rebuilt some_ inside earlier rfl rest built rebuilt after

/-- No value of a schema of the document is lost: every type that comes from the schema
accepts it. -/
theorem kept_of_accepts (ended : Ended schemas number contract final)
    (accepted : Accepts schemas (Merges schemas) schema value)
    (stands : schema.IsPartOf number contract) : Kept schemas final schema value := by
  induction accepted with
  | null nullable => exact kept_null nullable
  | scalar kind admitted => exact kept_scalar kind admitted
  | array kind each ih =>
      exact kept_array kind fun inner items item member =>
        ih inner items item member (stands.item items)
  | object kind properties present each ih =>
      exact kept_object ended stands kind properties present fun property member value found =>
        ih property member value found (stands.property member)
  | map kind properties each ih =>
      exact kept_map kind properties fun inner additional entry member =>
        ih inner additional entry member (stands.value additional)
  | union kind among accepted ih => exact kept_union kind among (ih (stands.member among))
  | allOf kind every merges ih =>
      exact kept_allOf ended kind (fun member among => ih member among (stands.member among)) merges
  | reference kind leads parsed accepted ih =>
      exact kept_reference ended kind leads parsed (ih (isPartOf_component ended.document parsed))
  | unresolved kind nowhere => exact kept_unresolved kind nowhere
  | any kind => exact kept_any kind

end TypedContract.Translation
