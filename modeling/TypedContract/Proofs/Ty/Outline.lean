/-
# TypedContract.Proofs.Ty.Outline -- types up to reasons and up to a depth

Two types are the same if they agree but for the reasons of unknown types
(`Ty.unreasoned`).  Types that are defined by each other are compared layer by layer:
`Ty.outline n` keeps records `n` deep and forgets what lies deeper.  A type is finite,
so types with the same outlines are the same (`Ty.unreasoned_eq_iff`).
-/
import TypedContract.Ty.Basic

namespace TypedContract.Ty

set_option autoImplicit false

/-! ## Forgetting -/

mutual

/-- The type without the reasons of unknown types. -/
def unreasoned : Ty → Ty
  | .primitive p => .primitive p
  | .array element => .array (unreasoned element)
  | .map value => .map (unreasoned value)
  | .record name fields description => .record name (unreasonedFields fields) description
  | .union name members => .union name (unreasonedMembers members)
  | .reference name => .reference name
  | .unknown _ => .unknown ""

/-- The members without the reasons of unknown types. -/
def unreasonedMembers : List Ty → List Ty
  | [] => []
  | member :: rest => unreasoned member :: unreasonedMembers rest

/-- The fields without the reasons of unknown types. -/
def unreasonedFields : List (Field Ty) → List (Field Ty)
  | [] => []
  | ⟨name, type, required, default, description, readOnly⟩ :: rest =>
      ⟨name, unreasoned type, required, default, description, readOnly⟩ :: unreasonedFields rest

end

mutual

/-- The type with records `n` deep; a deeper record is as good as unknown. -/
def outline (n : Nat) : Ty → Ty
  | .primitive p => .primitive p
  | .array element => .array (outline n element)
  | .map value => .map (outline n value)
  | .record name fields description =>
      match n with
      | 0 => .unknown ""
      | n + 1 => .record name (outlineFields n fields) description
  | .union name members => .union name (outlineMembers n members)
  | .reference name => .reference name
  | .unknown _ => .unknown ""

/-- The members with records `n` deep. -/
def outlineMembers (n : Nat) : List Ty → List Ty
  | [] => []
  | member :: rest => outline n member :: outlineMembers n rest

/-- The fields with records `n` deep. -/
def outlineFields (n : Nat) : List (Field Ty) → List (Field Ty)
  | [] => []
  | ⟨name, type, required, default, description, readOnly⟩ :: rest =>
      ⟨name, outline n type, required, default, description, readOnly⟩ :: outlineFields n rest

end

variable {n : Nat} {type other : Ty} {types others : List Ty} {fields : List (Field Ty)}
  {name : String}

/-! ## What stays -/

theorem outlineMembers_eq_map : outlineMembers n types = types.map (outline n) := by
  induction types with
  | nil => rfl
  | cons type rest ih => rw [outlineMembers, ih, List.map_cons]

theorem unreasonedMembers_eq_map : unreasonedMembers types = types.map unreasoned := by
  induction types with
  | nil => rfl
  | cons type rest ih => rw [unreasonedMembers, ih, List.map_cons]

mutual

theorem isNilable_outline : ∀ type : Ty, (outline n type).isNilable = type.isNilable
  | .union name members => by
      simp only [outline, isNilable, anyNilable_outline members]
  | .record name fields description => by
      cases n <;> rfl
  | .primitive p | .array element | .map value | .reference name | .unknown reason => rfl

theorem anyNilable_outline : ∀ types : List Ty,
    anyNilable (outlineMembers n types) = anyNilable types
  | [] => rfl
  | type :: rest => by
      simp only [outlineMembers, anyNilable, isNilable_outline type, anyNilable_outline rest]

end

@[simp] theorem outline_nil : outline n .nil = .nil := rfl

theorem unreasoned_eq_reference : unreasoned type = .reference name ↔ type = .reference name := by
  cases type with
  | _ => simp [unreasoned]

theorem isRecord_unreasoned : (unreasoned type).isRecord = type.isRecord := by
  cases type <;> rfl

/-! ## The same outlines -/

mutual

theorem outline_unreasoned (n : Nat) : ∀ type : Ty, outline n (unreasoned type) = outline n type
  | .array element | .map element => by
      simp only [unreasoned, outline, outline_unreasoned n element]
  | .record name fields description => by
      cases n with
      | zero => rfl
      | succ n => simp only [unreasoned, outline, outlineFields_unreasoned n fields]
  | .union name members => by
      simp only [unreasoned, outline, outlineMembers_unreasoned n members]
  | .primitive p | .reference name | .unknown reason => rfl

theorem outlineMembers_unreasoned (n : Nat) : ∀ types : List Ty,
    outlineMembers n (unreasonedMembers types) = outlineMembers n types
  | [] => rfl
  | type :: rest => by
      simp only [unreasonedMembers, outlineMembers, outline_unreasoned n type,
        outlineMembers_unreasoned n rest]

theorem outlineFields_unreasoned (n : Nat) : ∀ fields : List (Field Ty),
    outlineFields n (unreasonedFields fields) = outlineFields n fields
  | [] => rfl
  | ⟨name, type, required, default, description, readOnly⟩ :: rest => by
      simp only [unreasonedFields, outlineFields, outline_unreasoned n type,
        outlineFields_unreasoned n rest]

end

mutual

/-- No record of a type lies deeper than the type is large. -/
theorem outline_of_weight_le (n : Nat) : ∀ type : Ty, weight type ≤ n →
    outline n type = unreasoned type
  | .array element, le | .map element, le => by
      simp only [weight] at le
      simp only [unreasoned, outline, outline_of_weight_le n element (by omega)]
  | .record name fields description, le => by
      simp only [weight] at le
      obtain ⟨m, rfl⟩ : ∃ m, n = m + 1 := ⟨n - 1, by omega⟩
      simp only [unreasoned, outline, outlineFields_of_weight_le m fields (by omega)]
  | .union name members, le => by
      simp only [weight] at le
      simp only [unreasoned, outline, outlineMembers_of_weight_le n members (by omega)]
  | .primitive p, _ | .reference name, _ | .unknown reason, _ => rfl

theorem outlineMembers_of_weight_le (n : Nat) : ∀ types : List Ty, memberWeight types ≤ n →
    outlineMembers n types = unreasonedMembers types
  | [], _ => rfl
  | type :: rest, le => by
      simp only [memberWeight] at le
      simp only [unreasonedMembers, outlineMembers, outline_of_weight_le n type (by omega),
        outlineMembers_of_weight_le n rest (by omega)]

theorem outlineFields_of_weight_le (n : Nat) : ∀ fields : List (Field Ty),
    fieldWeight fields ≤ n → outlineFields n fields = unreasonedFields fields
  | [], _ => rfl
  | ⟨name, type, required, default, description, readOnly⟩ :: rest, le => by
      simp only [fieldWeight] at le
      simp only [unreasonedFields, outlineFields, outline_of_weight_le n type (by omega),
        outlineFields_of_weight_le n rest (by omega)]

end

/-- Types that agree in every layer are the same but for the reasons of unknown types. -/
theorem unreasoned_eq_iff :
    type.unreasoned = other.unreasoned ↔ ∀ n, type.outline n = other.outline n := by
  constructor
  · intro same n
    rw [← outline_unreasoned n type, same, outline_unreasoned]
  · intro same
    have layers := same (max type.weight other.weight)
    rwa [outline_of_weight_le _ type (Nat.le_max_left _ _),
      outline_of_weight_le _ other (Nat.le_max_right _ _)] at layers

end TypedContract.Ty
