/-
# TypedContract.Proofs.Ty.Acceptance -- the values of a type

A type is read over a registry: a reference has the values of the type that its name
is registered with.  The reading is finite, so a type that only refers to itself has
no values.  Which values a type has depends on the entries that its references reach,
hence not on where along a chain of references one starts (`accepts_resolve`).
-/
import TypedContract.Proofs.Translation.Derivation
import TypedContract.Proofs.Ty.References

namespace TypedContract

set_option autoImplicit false

/-! ## Primitive values -/

/-- The values of a kind of primitive, range and listed values apart. -/
def Scalar.admits : Scalar → Json → Bool
  | .string, .str _ | .bytes, .str _ => true
  | .int64, .int _ | .int32, .int _ => true
  | .double, .int _ | .double, .double _ | .float, .int _ | .float, .double _ => true
  | .bool, .bool _ => true
  | .nil, .null => true
  | _, _ => false

namespace Primitive

/-- An integer lies in the range of the primitive. -/
def inRange (primitive : Primitive) (value : Json) : Bool :=
  match value with
  | .int n => primitive.minimum.all (· ≤ n) && primitive.maximum.all (n ≤ ·)
  | _ => true

/-- The value is one of those that the primitive is restricted to. -/
def lists (primitive : Primitive) (value : Json) : Bool :=
  primitive.enum.all fun values => values.any (Json.same value)

/-- The values of a primitive. -/
def admits (primitive : Primitive) (value : Json) : Bool :=
  primitive.scalar.admits value && primitive.inRange value && primitive.lists value

end Primitive

/-! ## Values of types -/

/-- The values of a type over a registry. -/
inductive Ty.Accepts (registry : Registry) : Ty → Json → Prop where
  | primitive {primitive : Primitive} {value : Json} (admitted : primitive.admits value = true) :
      Accepts registry (.primitive primitive) value
  | array {element : Ty} {items : List Json}
      (each : ∀ item ∈ items, Accepts registry element item) :
      Accepts registry (.array element) (.list items)
  | map {type : Ty} {entries : List (String × Json)}
      (each : ∀ entry ∈ entries, Accepts registry type entry.2) :
      Accepts registry (.map type) (.object entries)
  /-- The required fields are present and every field that is present has its type. -/
  | record {name : Option String} {fields : List (Field Ty)} {text : String}
      {entries : List (String × Json)}
      (present : ∀ field ∈ fields, field.required = true →
        (Json.find? field.name entries).isSome = true)
      (each : ∀ field ∈ fields, ∀ value, Json.find? field.name entries = some value →
        Accepts registry field.type value) :
      Accepts registry (.record name fields text) (.object entries)
  | union {name : Option String} {members : List Ty} {member : Ty} {value : Json}
      (among : member ∈ members) (accepted : Accepts registry member value) :
      Accepts registry (.union name members) value
  | reference {name : String} {type : Ty} {value : Json}
      (registered : registry.get? name = some type) (accepted : Accepts registry type value) :
      Accepts registry (.reference name) value
  | unknown {reason : String} {value : Json} : Accepts registry (.unknown reason) value

namespace Ty

variable {registry : Registry} {name : String} {type : Ty} {value : Json}

theorem accepts_nil : Ty.nil.Accepts registry .null := .primitive rfl

theorem accepts_union_iff {union : Option String} {members : List Ty} :
    (Ty.union union members).Accepts registry value ↔
      ∃ member ∈ members, member.Accepts registry value := by
  constructor
  · rintro (_ | _)
    exact ⟨_, ‹_›, ‹_›⟩
  · rintro ⟨member, among, accepted⟩
    exact .union among accepted

theorem accepts_reference_iff (registered : registry.get? name = some type) :
    (Ty.reference name).Accepts registry value ↔ type.Accepts registry value := by
  constructor
  · rintro (_ | _)
    rename_i found accepted
    cases registered.symm.trans found
    exact accepted
  · exact .reference registered

/-- The type of nothing has no other value. -/
theorem Accepts.eq_null_of_isNil (accepted : type.Accepts registry value)
    (nil : type.isNil = true) : value = .null := by
  cases accepted with
  | @primitive p _ admitted =>
      have kind : p.scalar = .nil := by simpa [isNil] using nil
      simp only [Primitive.admits, kind, Bool.and_eq_true] at admitted
      cases value with
      | null => rfl
      | _ => cases admitted.1.1
  | _ => cases nil

/-- Following references in a registry that has become `registry` keeps the values. -/
theorem accepts_follow {earlier : Registry} (grown : earlier.entries <+: registry.entries)
    {seen : List String} {bound : Nat} :
    (earlier.follow seen bound type).Accepts registry value ↔ type.Accepts registry value := by
  induction bound generalizing seen type with
  | zero => cases type <;> exact Iff.rfl
  | succ bound ih =>
      cases type with
      | reference name =>
          unfold Registry.follow
          split
          · exact Iff.rfl
          · split
            · rename_i target found
              rw [ih, accepts_reference_iff (Registry.get?_of_prefix grown found)]
            · exact Iff.rfl
      | _ => exact Iff.rfl

theorem accepts_resolve {earlier : Registry} (grown : earlier.entries <+: registry.entries) :
    (earlier.resolve type).Accepts registry value ↔ type.Accepts registry value :=
  accepts_follow grown

end Ty

namespace Translation

variable {registry : Registry} {type : Ty} {value : Json}

theorem accepts_withNil {nullable : Bool} (accepted : type.Accepts registry value) :
    (withNil nullable type).Accepts registry value := by
  unfold withNil
  split
  · exact .union List.mem_cons_self accepted
  · exact accepted

/-- A nullable type has the value `null`, when a type that lists nothing has. -/
theorem accepts_withNil_null
    (listed : type.isNilable = true → type.Accepts registry .null) :
    (withNil true type).Accepts registry .null := by
  unfold withNil
  cases nilable : type.isNilable with
  | true => exact listed nilable
  | false => exact .union (List.mem_cons_of_mem _ List.mem_cons_self) Ty.accepts_nil

/-- Stripping nothing from a union keeps all other values. -/
theorem accepts_bareMember (accepted : type.Accepts registry value) (some_ : value ≠ .null) :
    (bareMember type).Accepts registry value := by
  unfold bareMember
  split
  · rename_i members
    obtain ⟨member, among, inside⟩ := Ty.accepts_union_iff.1 accepted
    split
    · rename_i only single
      have kept : member ∈ members.filter (!·.isNil) := by
        refine List.mem_filter.2 ⟨among, ?_⟩
        cases nil : member.isNil with
        | true => exact absurd (inside.eq_null_of_isNil nil) some_
        | false => rfl
      rw [single] at kept
      obtain rfl := List.mem_singleton.1 kept
      exact inside
    · exact accepted
  · exact accepted

/-- A value of all merged records is a value of the record with their fields. -/
theorem accepts_merged {name : Option String} {text : String} {sources : List Ty}
    (records : mergeable sources = true)
    (accepted : ∀ source ∈ sources, source.Accepts registry value) :
    (Ty.record name (mergeFields sources) text).Accepts registry value := by
  simp only [mergeable, Bool.and_eq_true, Bool.not_eq_true', List.isEmpty_eq_false_iff,
    List.all_eq_true] at records
  obtain ⟨source, held⟩ := List.exists_mem_of_ne_nil _ records.1
  have object : ∃ entries, value = .object entries := by
    have record := records.2 source held
    cases accepted source held with
    | record => exact ⟨_, rfl⟩
    | _ => cases record
  obtain ⟨entries, rfl⟩ := object
  have fieldwise : ∀ field ∈ mergeFields sources,
      (field.required = true → (Json.find? field.name entries).isSome = true) ∧
      ∀ value, Json.find? field.name entries = some value →
        field.type.Accepts registry value := by
    intro field member
    obtain ⟨name, fields, text, here, within⟩ := mem_mergeFields member
    cases accepted _ here with
    | record present each => exact ⟨present field within, each field within⟩
  exact .record (fun field member => (fieldwise field member).1)
    fun field member => (fieldwise field member).2

end Translation

end TypedContract
