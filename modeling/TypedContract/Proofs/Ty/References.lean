/-
# TypedContract.Proofs.Ty.References -- the names that a type refers to

A list of types or fields refers to what its members refer to.  Merging, taking
the bare member of a union and following references through a registry lead to no
name that was not referred to before.
-/
import TypedContract.Translation
import TypedContract.Proofs.Registry.Entries

namespace TypedContract

set_option autoImplicit false

namespace Ty

theorem memberReferences_eq (members : List Ty) :
    memberReferences members = members.flatMap references := by
  induction members with
  | nil => rfl
  | cons member rest ih => simp only [memberReferences, ih, List.flatMap_cons]

theorem fieldReferences_eq (fields : List (Field Ty)) :
    fieldReferences fields = fields.flatMap fun field => field.type.references := by
  induction fields with
  | nil => rfl
  | cons field rest ih => simp only [fieldReferences, ih, List.flatMap_cons]

@[simp] theorem references_nil : Ty.nil.references = [] := rfl

@[simp] theorem references_primitive {p : Primitive} : (Ty.primitive p).references = [] := rfl

@[simp] theorem references_unknown {reason : String} : (Ty.unknown reason).references = [] := rfl

@[simp] theorem references_reference {name : String} : (Ty.reference name).references = [name] := rfl

@[simp] theorem references_array {element : Ty} : (Ty.array element).references = element.references :=
  rfl

@[simp] theorem references_map {value : Ty} : (Ty.map value).references = value.references := rfl

theorem references_union {union : Option String} {members : List Ty} :
    (Ty.union union members).references = members.flatMap references :=
  memberReferences_eq members

theorem references_record {record : Option String} {fields : List (Field Ty)} {text : String} :
    (Ty.record record fields text).references = fields.flatMap fun field => field.type.references :=
  fieldReferences_eq fields

theorem mem_references_union {name : String} {union : Option String} {members : List Ty} :
    name ∈ (Ty.union union members).references ↔ ∃ member ∈ members, name ∈ member.references := by
  rw [references_union, List.mem_flatMap]

theorem mem_references_record {name : String} {record : Option String}
    {fields : List (Field Ty)} {text : String} :
    name ∈ (Ty.record record fields text).references ↔
      ∃ field ∈ fields, name ∈ field.type.references := by
  rw [references_record, List.mem_flatMap]

end Ty

namespace Registry

/-- Every name that the type refers to is registered or in progress. -/
def Covers (registry : Registry) (type : Ty) : Prop :=
  ∀ name ∈ type.references, registry.contains name = true

/-- Every name that a registered type refers to is registered or in progress. -/
def Closed (registry : Registry) : Prop :=
  ∀ entry ∈ registry.entries, registry.Covers entry.2

section

variable {registry : Registry} {name : String} {type : Ty} {types : List Ty}

theorem covers_unknown {reason : String} : registry.Covers (.unknown reason) := by
  intro name member
  simp at member

theorem covers_primitive {p : Primitive} : registry.Covers (.primitive p) := by
  intro name member
  simp at member

theorem covers_reference_iff : registry.Covers (.reference name) ↔ registry.contains name = true := by
  simp [Covers]

theorem covers_union_iff {union : Option String} :
    registry.Covers (.union union types) ↔ ∀ type ∈ types, registry.Covers type := by
  simp only [Covers, Ty.mem_references_union]
  exact ⟨fun h type member name inside => h name ⟨type, member, inside⟩,
    fun h name ⟨type, member, inside⟩ => h type member name inside⟩

theorem covers_record_iff {record : Option String} {fields : List (Field Ty)} {text : String} :
    registry.Covers (.record record fields text) ↔
      ∀ field ∈ fields, registry.Covers field.type := by
  simp only [Covers, Ty.mem_references_record]
  exact ⟨fun h field member name inside => h name ⟨field, member, inside⟩,
    fun h name ⟨field, member, inside⟩ => h field member name inside⟩

theorem Covers.mono {later : Registry} (covers : registry.Covers type)
    (kept : ∀ name, registry.contains name = true → later.contains name = true) :
    later.Covers type :=
  fun name member => kept name (covers name member)

theorem Closed.get? (closed : registry.Closed) (found : registry.get? name = some type) :
    registry.Covers type :=
  closed _ (mem_entries_of_get? found)

/-- Following references leads to no new name. -/
theorem Closed.resolve (closed : registry.Closed) (covers : registry.Covers type) :
    registry.Covers (registry.resolve type) := by
  unfold Registry.resolve
  generalize registry.entries.length + 1 = bound
  generalize ([] : List String) = seen
  induction bound generalizing seen type with
  | zero => cases type <;> exact covers
  | succ bound ih =>
      cases type with
      | reference name =>
          unfold follow
          split
          · exact covers
          · split
            · rename_i target found
              exact ih (closed.get? found) _
            · exact covers
      | _ => exact covers

end

end Registry

namespace Translation

variable {registry : Registry}

theorem covers_withNil {type : Ty} {nullable : Bool} (covers : registry.Covers type) :
    registry.Covers (withNil nullable type) := by
  unfold withNil
  split
  · rw [Registry.covers_union_iff]
    intro member inside
    obtain rfl | rfl : member = type ∨ member = .nil := by simpa using inside
    · exact covers
    · exact Registry.covers_primitive
  · exact covers

theorem covers_bareMember {type : Ty} (covers : registry.Covers type) :
    registry.Covers (bareMember type) := by
  unfold bareMember
  split
  · rename_i members
    split
    · rename_i only single
      have member : only ∈ members.filter (!·.isNil) := by simp [single]
      exact Registry.covers_union_iff.1 covers only (List.mem_filter.1 member).1
    · exact covers
  · exact covers

theorem mem_putField {field other : Field Ty} {fields : List (Field Ty)}
    (member : other ∈ putField field fields) : other = field ∨ other ∈ fields := by
  induction fields with
  | nil => simpa [putField] using member
  | cons first rest ih =>
      unfold putField at member
      split at member
      · rcases List.mem_cons.1 member with rfl | inside
        · exact .inl rfl
        · exact .inr (List.mem_cons_of_mem _ inside)
      · rcases List.mem_cons.1 member with rfl | inside
        · exact .inr List.mem_cons_self
        · exact (ih inside).imp_right (List.mem_cons_of_mem _)

theorem mem_foldl_putField {other : Field Ty} {fields merged : List (Field Ty)}
    (member : other ∈ fields.foldl (fun merged field => putField field merged) merged) :
    other ∈ fields ∨ other ∈ merged := by
  induction fields generalizing merged with
  | nil => exact .inr member
  | cons field rest ih =>
      rcases ih member with inside | inside
      · exact .inl (List.mem_cons_of_mem _ inside)
      · rcases mem_putField inside with rfl | inside
        · exact .inl List.mem_cons_self
        · exact .inr inside

/-- The fields merged so far with those of a further type, which has some if it is a record. -/
def mergeInto (merged : List (Field Ty)) (type : Ty) : List (Field Ty) :=
  match type with
  | .record _ fields _ => fields.foldl (fun merged field => putField field merged) merged
  | _ => merged

theorem mergeFields_eq {types : List Ty} : mergeFields types = types.foldl mergeInto [] := rfl

theorem mem_foldl_merge {field : Field Ty} {types : List Ty} {merged : List (Field Ty)}
    (member : field ∈ types.foldl mergeInto merged) :
    (∃ name fields text, Ty.record name fields text ∈ types ∧ field ∈ fields) ∨
      field ∈ merged := by
  induction types generalizing merged with
  | nil => exact .inr member
  | cons type rest ih =>
      rcases ih member with ⟨name, fields, text, here, within⟩ | before
      · exact .inl ⟨name, fields, text, List.mem_cons_of_mem _ here, within⟩
      · unfold mergeInto at before
        split at before
        · rename_i name fields text
          exact (mem_foldl_putField before).imp_left
            fun within => ⟨name, fields, text, List.mem_cons_self, within⟩
        · exact .inr before

/-- A merged field is a field of one of the records. -/
theorem mem_mergeFields {field : Field Ty} {types : List Ty} (member : field ∈ mergeFields types) :
    ∃ name fields text, Ty.record name fields text ∈ types ∧ field ∈ fields := by
  rw [mergeFields_eq] at member
  exact (mem_foldl_merge member).resolve_right List.not_mem_nil

theorem covers_mergeFields {types : List Ty} {field : Field Ty}
    (covers : ∀ type ∈ types, registry.Covers type) (member : field ∈ mergeFields types) :
    registry.Covers field.type := by
  obtain ⟨name, fields, text, here, within⟩ := mem_mergeFields member
  exact Registry.covers_record_iff.1 (covers _ here) field within

end Translation

end TypedContract
