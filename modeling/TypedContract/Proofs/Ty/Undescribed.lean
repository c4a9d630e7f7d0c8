/-
# TypedContract.Proofs.Ty.Undescribed -- types up to descriptions

The descriptions of records and of fields are only passed on: no question that the
program asks of a type, and none that it asks of the registry, depends on them.
`Ty.undescribed` forgets them, and every operation on types and on the registry commutes
with forgetting (`Registry.undescribed_resolve`, `Registry.isScalar_undescribed`).  So
registries that are the same but for descriptions answer alike (`Registry.Reworded`).
-/
import TypedContract.Proofs.Registry.Entries
import TypedContract.Proofs.Steps
import TypedContract.Proofs.Ty.References
import TypedContract.Signature.Basic

namespace TypedContract

set_option autoImplicit false

namespace Ty

/-! ## Forgetting descriptions -/

mutual

/-- The type without the descriptions of records and fields. -/
def undescribed : Ty → Ty
  | .primitive p => .primitive p
  | .array element => .array (undescribed element)
  | .map value => .map (undescribed value)
  | .record name fields _ => .record name (undescribedFields fields) ""
  | .union name members => .union name (undescribedMembers members)
  | .reference name => .reference name
  | .unknown reason => .unknown reason

/-- The members without descriptions. -/
def undescribedMembers : List Ty → List Ty
  | [] => []
  | member :: rest => undescribed member :: undescribedMembers rest

/-- The fields without descriptions. -/
def undescribedFields : List (Field Ty) → List (Field Ty)
  | [] => []
  | ⟨name, type, required, default, _, readOnly⟩ :: rest =>
      ⟨name, undescribed type, required, default, "", readOnly⟩ :: undescribedFields rest

end

/-- The types differ in descriptions only. -/
def Reworded (type type' : Ty) : Prop := type'.undescribed = type.undescribed

/-- The field without the descriptions of itself and of its type. -/
def undescribedField (field : Field Ty) : Field Ty :=
  { field with type := field.type.undescribed, description := "" }

variable {type : Ty} {types : List Ty} {fields : List (Field Ty)} {name : String}

theorem undescribedMembers_eq_map : undescribedMembers types = types.map undescribed := by
  induction types with
  | nil => rfl
  | cons type rest ih => rw [undescribedMembers, ih, List.map_cons]

theorem undescribedFields_eq_map : undescribedFields fields = fields.map undescribedField := by
  induction fields with
  | nil => rfl
  | cons field rest ih => rw [undescribedFields, ih, List.map_cons]; rfl

theorem undescribed_record {name : Option String} {text : String} :
    (record name fields text).undescribed = .record name (fields.map undescribedField) "" := by
  rw [undescribed, undescribedFields_eq_map]

theorem undescribed_union {name : Option String} :
    (union name types).undescribed = .union name (types.map undescribed) := by
  rw [undescribed, undescribedMembers_eq_map]

/-! ## What does not depend on descriptions -/

theorem exists_record (isRecord : type.isRecord = true) :
    ∃ own fields text, type = .record own fields text := by
  cases type with
  | record own fields text => exact ⟨own, fields, text, rfl⟩
  | _ => cases isRecord

theorem Reworded.refl (type : Ty) : Reworded type type := rfl

theorem undescribed_eq_reference : type.undescribed = .reference name ↔ type = .reference name := by
  cases type with
  | _ => simp [undescribed]

theorem isNil_undescribed : type.undescribed.isNil = type.isNil := by
  cases type <;> rfl

theorem isRecord_undescribed : type.undescribed.isRecord = type.isRecord := by
  cases type <;> rfl

mutual

theorem isNilable_undescribed : ∀ type : Ty, type.undescribed.isNilable = type.isNilable
  | .union name members => by
      simp only [undescribed, isNilable, anyNilable_undescribed members]
  | .primitive _ | .array _ | .map _ | .record _ _ _ | .reference _ | .unknown _ => rfl

theorem anyNilable_undescribed : ∀ types : List Ty,
    anyNilable (undescribedMembers types) = anyNilable types
  | [] => rfl
  | type :: rest => by
      simp only [undescribedMembers, anyNilable, isNilable_undescribed type,
        anyNilable_undescribed rest]

end

theorem Reworded.isNilable {type' : Ty} (same : type.Reworded type') :
    type'.isNilable = type.isNilable := by
  rw [← isNilable_undescribed type', same, isNilable_undescribed]

/-- Records have fields of the same names in the same order. -/
theorem Reworded.record_or {type' : Ty} (same : type.Reworded type') :
    (∃ own own' fields fields' text text', type = .record own fields text ∧
        type' = .record own' fields' text' ∧
        List.Forall₂ (fun field field' : Field Ty => field'.name = field.name) fields fields') ∨
      type.isRecord = false ∧ type'.isRecord = false := by
  have records : type'.isRecord = type.isRecord := by
    rw [← isRecord_undescribed, same, isRecord_undescribed]
  cases kind : type.isRecord with
  | false => exact .inr ⟨rfl, records.trans kind⟩
  | true =>
      obtain ⟨own, fields, text, rfl⟩ := exists_record kind
      obtain ⟨own', fields', text', rfl⟩ := exists_record (records.trans kind)
      refine .inl ⟨own, own', fields, fields', text, text', rfl, rfl, ?_⟩
      unfold Reworded at same
      rw [undescribed_record, undescribed_record] at same
      injection same with _ fieldsSame _
      exact (forall₂_of_map_eq fieldsSame).imp fun field field' own => by
        have erased := congrArg Field.name own
        exact erased

mutual

theorem references_undescribed : ∀ type : Ty, type.undescribed.references = type.references
  | .array element | .map element => by
      simp only [undescribed, references, references_undescribed element]
  | .record name fields description => by
      simp only [undescribed, references, fieldReferences_undescribed fields]
  | .union name members => by
      simp only [undescribed, references, memberReferences_undescribed members]
  | .primitive _ | .reference _ | .unknown _ => rfl

theorem memberReferences_undescribed : ∀ types : List Ty,
    memberReferences (undescribedMembers types) = memberReferences types
  | [] => rfl
  | type :: rest => by
      simp only [undescribedMembers, memberReferences, references_undescribed type,
        memberReferences_undescribed rest]

theorem fieldReferences_undescribed : ∀ fields : List (Field Ty),
    fieldReferences (undescribedFields fields) = fieldReferences fields
  | [] => rfl
  | ⟨_, type, _, _, _, _⟩ :: rest => by
      simp only [undescribedFields, fieldReferences, references_undescribed type,
        fieldReferences_undescribed rest]

end

mutual

theorem weight_undescribed : ∀ type : Ty, type.undescribed.weight = type.weight
  | .array element | .map element => by
      simp only [undescribed, weight, weight_undescribed element]
  | .record name fields description => by
      simp only [undescribed, weight, fieldWeight_undescribed fields]
  | .union name members => by
      simp only [undescribed, weight, memberWeight_undescribed members]
  | .primitive _ | .reference _ | .unknown _ => rfl

theorem memberWeight_undescribed : ∀ types : List Ty,
    memberWeight (undescribedMembers types) = memberWeight types
  | [] => rfl
  | type :: rest => by
      simp only [undescribedMembers, memberWeight, weight_undescribed type,
        memberWeight_undescribed rest]

theorem fieldWeight_undescribed : ∀ fields : List (Field Ty),
    fieldWeight (undescribedFields fields) = fieldWeight fields
  | [] => rfl
  | ⟨_, type, _, _, _, _⟩ :: rest => by
      simp only [undescribedFields, fieldWeight, weight_undescribed type,
        fieldWeight_undescribed rest]

end

end Ty

/-! ## Translations of schemas -/

namespace Translation

open Ty (undescribedField)

variable {type : Ty}

theorem undescribed_withNil {nullable : Bool} :
    (withNil nullable type).undescribed = withNil nullable type.undescribed := by
  unfold withNil
  rw [Ty.isNilable_undescribed]
  split
  · exact Ty.undescribed_union
  · rfl

theorem undescribed_bareMember : (bareMember type).undescribed = bareMember type.undescribed := by
  match type with
  | .union none members =>
      have kept : (members.map Ty.undescribed).filter (!·.isNil) =
          (members.filter (!·.isNil)).map Ty.undescribed := by
        rw [List.filter_map]
        refine congrArg _ (List.filter_congr fun member _ => ?_)
        rw [Function.comp_apply, Ty.isNil_undescribed]
      rw [Ty.undescribed_union]
      unfold bareMember
      simp only [kept]
      split
      · rename_i only single
        rw [single]
        rfl
      · rename_i several
        split
        · rename_i only single
          obtain ⟨inner, same, -⟩ := List.map_eq_singleton_iff.1 single
          exact absurd same (several inner)
        · exact Ty.undescribed_union
  | .union (some _) _ | .primitive _ | .array _ | .map _ | .record _ _ _ | .reference _
  | .unknown _ => rfl

theorem map_putField {field : Field Ty} {fields : List (Field Ty)} :
    (putField field fields).map undescribedField =
      putField (undescribedField field) (fields.map undescribedField) := by
  induction fields with
  | nil => rfl
  | cons first rest ih =>
      have named : (undescribedField first).name == (undescribedField field).name ↔
          first.name == field.name := Iff.rfl
      rw [putField, List.map_cons, putField]
      by_cases same : (first.name == field.name) = true
      · rw [if_pos same, if_pos (named.2 same), List.map_cons]
      · rw [if_neg same, if_neg fun other => same (named.1 other), List.map_cons, ih]

theorem map_mergeInto {merged : List (Field Ty)} :
    (mergeInto merged type).map undescribedField =
      mergeInto (merged.map undescribedField) type.undescribed := by
  cases type with
  | record name fields text =>
      rw [Ty.undescribed_record]
      unfold mergeInto
      induction fields generalizing merged with
      | nil => rfl
      | cons field rest ih =>
          simp only [List.foldl_cons, List.map_cons] at ih ⊢
          rw [ih, map_putField]
  | _ => rfl

theorem map_mergeFields {types : List Ty} :
    (mergeFields types).map undescribedField = mergeFields (types.map Ty.undescribed) := by
  have merge (merged : List (Field Ty)) : (types.foldl mergeInto merged).map undescribedField =
      (types.map Ty.undescribed).foldl mergeInto (merged.map undescribedField) := by
    induction types generalizing merged with
    | nil => rfl
    | cons type rest ih => rw [List.foldl_cons, ih, map_mergeInto, List.map_cons, List.foldl_cons]
  exact merge []

end Translation

/-! ## The registry -/

namespace Registry

/-- The registry without the descriptions of its types. -/
def undescribed (registry : Registry) : Registry :=
  { registry with entries := registry.entries.map fun entry => (entry.1, entry.2.undescribed) }

variable {registry : Registry} {name base : String} {type : Ty}

@[simp] theorem get?_undescribed :
    registry.undescribed.get? name = (registry.get? name).map Ty.undescribed := by
  obtain ⟨entries, building, reserved⟩ := registry
  change (entries.map _).lookup name = (entries.lookup name).map _
  induction entries with
  | nil => rfl
  | cons entry rest ih =>
      rw [List.map_cons, List.lookup_cons, List.lookup_cons]
      split
      · rfl
      · exact ih

@[simp] theorem names_undescribed : registry.undescribed.names = registry.names := by
  rw [names, undescribed, List.map_map]
  rfl

@[simp] theorem inProgress_undescribed :
    registry.undescribed.inProgress name = registry.inProgress name := rfl

@[simp] theorem contains_undescribed :
    registry.undescribed.contains name = registry.contains name := by
  rw [contains, contains, get?_undescribed, Option.isSome_map, inProgress_undescribed]

@[simp] theorem isTaken_undescribed :
    registry.undescribed.isTaken name = registry.isTaken name := by
  rw [isTaken, isTaken, contains_undescribed]
  rfl

@[simp] theorem uniqueName_undescribed :
    registry.undescribed.uniqueName base = registry.uniqueName base := by
  have count : registry.undescribed.nameCount = registry.nameCount := by
    simp only [nameCount, undescribed, List.length_map]
  have free (n bound : Nat) :
      registry.undescribed.firstFree base n bound = registry.firstFree base n bound := by
    induction bound generalizing n with
    | zero => rfl
    | succ bound ih => rw [firstFree, firstFree, isTaken_undescribed, ih]
  rw [uniqueName, uniqueName, isTaken_undescribed, count, free]

@[simp] theorem checkpoint_undescribed : registry.undescribed.checkpoint = registry.checkpoint :=
  List.length_map _

/-! ## Changes -/

theorem undescribed_leave : (registry.leave name (some type)).undescribed =
    registry.undescribed.leave name (some type.undescribed) := by
  have stored (entries : List (String × Ty)) :
      (putEntry name type entries).map (fun entry => (entry.1, entry.2.undescribed)) =
        putEntry name type.undescribed (entries.map fun entry => (entry.1, entry.2.undescribed)) := by
    induction entries with
    | nil => rfl
    | cons entry rest ih =>
        simp only [putEntry, List.map_cons]
        split
        · rfl
        · rw [List.map_cons, ih]
  simp only [leave, store, stop, undescribed, stored]

theorem undescribed_rollback {mark : Int} :
    (registry.rollback mark).undescribed = registry.undescribed.rollback mark := by
  simp only [rollback, undescribed, kept, List.map_take, List.length_map]

/-! ## References -/

theorem undescribed_resolve :
    (registry.resolve type).undescribed = registry.undescribed.resolve type.undescribed := by
  have follows (bound : Nat) (seen : List String) (type : Ty) :
      (registry.follow seen bound type).undescribed =
        registry.undescribed.follow seen bound type.undescribed := by
    induction bound generalizing seen type with
    | zero => cases type <;> rfl
    | succ bound ih =>
        cases type with
        | reference name =>
            simp only [follow, Ty.undescribed, get?_undescribed]
            split
            · rfl
            · cases registry.get? name with
              | some target => exact ih _ _
              | none => rfl
        | _ => rfl
  rw [resolve, resolve, follows]
  simp only [undescribed, List.length_map]

theorem dangling_undescribed : registry.undescribed.dangling = registry.dangling := by
  have missing (found names : List String) :
      registry.undescribed.addMissing found names = registry.addMissing found names := by
    induction names generalizing found with
    | nil => rfl
    | cons name rest ih =>
        rw [addMissing, addMissing, get?_undescribed, Option.isSome_map, ih, ih]
  rw [dangling, dangling, missing, undescribed, List.flatMap_map]
  simp only [Ty.references_undescribed]

/-! ## Types that fit into a path or a header -/

theorem weight_undescribed : registry.undescribed.weight = registry.weight := by
  rw [weight, weight, undescribed, List.foldl_map]
  simp only [Ty.weight_undescribed]

theorem isScalar_undescribed :
    registry.undescribed.isScalar type.undescribed = registry.isScalar type := by
  have within (bound : Nat) (type : Ty) :
      registry.undescribed.isScalarWithin bound type.undescribed =
        registry.isScalarWithin bound type := by
    induction bound generalizing type with
    | zero => rfl
    | succ bound ih =>
        unfold isScalarWithin
        rw [← undescribed_resolve]
        cases registry.resolve type with
        | union name members =>
            rw [Ty.undescribed_union]
            simp only
            induction members with
            | nil => rfl
            | cons member rest more =>
                simp only [List.map_cons, List.allM_cons, ih, more]
        | _ => rfl
  rw [isScalar, isScalar, weight_undescribed, Ty.weight_undescribed, within]

theorem isHeaderType_undescribed :
    registry.undescribed.isHeaderType type.undescribed = registry.isHeaderType type := by
  unfold isHeaderType
  rw [← undescribed_resolve]
  cases registry.resolve type with
  | array element => exact isScalar_undescribed
  | _ => exact isScalar_undescribed

/-! ## Registries that differ in descriptions -/

/-- The registries differ in descriptions only. -/
structure Reworded (registry registry' : Registry) : Prop where
  same : registry'.undescribed = registry.undescribed

namespace Reworded

variable {registry' : Registry} {type' : Ty} (reworded : Reworded registry registry')

include reworded

theorem building : registry'.building = registry.building := by
  change registry'.undescribed.building = registry.undescribed.building
  rw [reworded.same]

/-- The entries have the same names and reworded types. -/
theorem entries : List.Forall₂ (fun entry entry' : String × Ty =>
    entry'.1 = entry.1 ∧ entry.2.Reworded entry'.2) registry.entries registry'.entries :=
  (forall₂_of_map_eq (congrArg Registry.entries reworded.same)).imp fun _ _ own =>
    Prod.mk.inj own

theorem get? (name : String) :
    Option.Rel Ty.Reworded (registry.get? name) (registry'.get? name) := by
  have same := congrArg (·.get? name) reworded.same
  simp only [get?_undescribed] at same
  cases found : registry.get? name with
  | none =>
      rw [found, Option.map_none, Option.map_eq_none_iff] at same
      rw [same]
      exact .none
  | some type =>
      rw [found, Option.map_some, Option.map_eq_some_iff] at same
      obtain ⟨type', found', same⟩ := same
      rw [found']
      exact .some same

theorem contains (name : String) : registry'.contains name = registry.contains name := by
  rw [← contains_undescribed, reworded.same, contains_undescribed]

theorem inProgress (name : String) : registry'.inProgress name = registry.inProgress name :=
  congrArg (·.inProgress name) reworded.same

theorem uniqueName (base : String) : registry'.uniqueName base = registry.uniqueName base := by
  rw [← uniqueName_undescribed, reworded.same, uniqueName_undescribed]

theorem checkpoint : registry'.checkpoint = registry.checkpoint := by
  rw [← checkpoint_undescribed, reworded.same, checkpoint_undescribed]

theorem names : registry'.names = registry.names := by
  rw [← names_undescribed, reworded.same, names_undescribed]

theorem beyond (mark : Int) : registry'.beyond mark = registry.beyond mark := by
  have length : registry'.entries.length = registry.entries.length := reworded.checkpoint
  rw [Registry.beyond, Registry.beyond, kept, kept, reworded.names, length]

theorem dangling : registry'.dangling = registry.dangling := by
  rw [← dangling_undescribed, reworded.same, dangling_undescribed]

theorem start (name : String) : (registry.start name).Reworded (registry'.start name) :=
  ⟨congrArg (·.start name) reworded.same⟩

theorem reserve (names : List String) : (registry.reserve names).Reworded (registry'.reserve names) :=
  ⟨congrArg (·.reserve names) reworded.same⟩

theorem rollback (mark : Int) : (registry.rollback mark).Reworded (registry'.rollback mark) := by
  constructor
  rw [undescribed_rollback, reworded.same, undescribed_rollback]

variable (same : type.Reworded type')

include same

theorem leave (name : String) :
    (registry.leave name (some type)).Reworded (registry'.leave name (some type')) := by
  constructor
  rw [undescribed_leave, reworded.same, same, undescribed_leave]

theorem resolve : (registry.resolve type).Reworded (registry'.resolve type') := by
  unfold Ty.Reworded
  rw [undescribed_resolve, reworded.same, same, undescribed_resolve]

theorem isScalar : registry'.isScalar type' = registry.isScalar type := by
  rw [← isScalar_undescribed, reworded.same, same, isScalar_undescribed]

theorem isHeaderType : registry'.isHeaderType type' = registry.isHeaderType type := by
  rw [← isHeaderType_undescribed, reworded.same, same, isHeaderType_undescribed]

end Reworded

end Registry

end TypedContract
