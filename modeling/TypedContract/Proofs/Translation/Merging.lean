/-
# TypedContract.Proofs.Translation.Merging -- the fields of merged records

A merge puts the fields of its records one after the other into one list, each in the place
of an earlier one of its name (`assemble`).  What comes out is told by the fields that went
in: the names in the order of their first appearance, each once (`names_assemble`), and for
every name the field that came last (`latest_assemble`).

Both are one induction on the fields from the end: one more field changes the names only if
its name is new, and the latest field of its own name only.
-/
import Mathlib.Data.List.Induction
import Mathlib.Data.List.Nodup
import TypedContract.Proofs.Ty.References

namespace TypedContract.Translation

set_option autoImplicit false

variable {field other : Field Ty} {fields fields' : List (Field Ty)} {name : String}

/-! ## One list of fields -/

/-- The fields of a type that is a record. -/
def recordFields : Ty → List (Field Ty)
  | .record _ fields _ => fields
  | _ => []

/-- The fields in order, each in the place of an earlier one of its name. -/
def assemble (fields : List (Field Ty)) : List (Field Ty) :=
  fields.foldl (fun merged field => putField field merged) []

/-- The last field of a name. -/
def latest (name : String) (fields : List (Field Ty)) : Option (Field Ty) :=
  fields.reverse.find? (·.name == name)

theorem assemble_concat : assemble (fields ++ [field]) = putField field (assemble fields) := by
  simp only [assemble, List.foldl_append, List.foldl_cons, List.foldl_nil]

/-- A merge assembles the fields of its types. -/
theorem mergeFields_eq_assemble (types : List Ty) :
    mergeFields types = assemble (types.flatMap recordFields) := by
  have merge (merged : List (Field Ty)) : types.foldl mergeInto merged =
      (types.flatMap recordFields).foldl (fun merged field => putField field merged) merged := by
    induction types generalizing merged with
    | nil => rfl
    | cons type rest ih =>
        rw [List.foldl_cons, ih, List.flatMap_cons, List.foldl_append]
        cases type <;> rfl
  exact merge []

theorem latest_concat : latest name (fields ++ [field]) =
    if field.name == name then some field else latest name fields := by
  simp only [latest, List.reverse_append, List.reverse_singleton, List.singleton_append,
    List.find?_cons]
  split <;> simp_all

theorem latest_append : latest name (fields ++ fields') =
    (latest name fields').or (latest name fields) := by
  simp only [latest, List.reverse_append, List.find?_append]

/-! ## One more field -/

theorem names_putField : (putField field fields).map Field.name =
    if field.name ∈ fields.map Field.name then fields.map Field.name
    else fields.map Field.name ++ [field.name] := by
  induction fields with
  | nil => rfl
  | cons first rest ih =>
      unfold putField
      by_cases same : first.name = field.name
      · simp [same]
      · rw [if_neg (by simpa using same), List.map_cons, ih]
        have later : field.name ∈ (first :: rest).map Field.name ↔ field.name ∈ rest.map Field.name := by
          simp [Ne.symm same]
        rw [if_congr later rfl rfl, List.map_cons]
        split <;> rfl

theorem nodup_putField (distinct : (fields.map Field.name).Nodup) :
    ((putField field fields).map Field.name).Nodup := by
  rw [names_putField]
  split
  · exact distinct
  · rename_i new
    exact distinct.append (List.nodup_singleton _) (by simpa using new)

/-- A field that is put among fields of different names takes the place of its name only. -/
theorem mem_putField_iff (distinct : (fields.map Field.name).Nodup) :
    other ∈ putField field fields ↔ other = field ∨ other ∈ fields ∧ other.name ≠ field.name := by
  induction fields with
  | nil => simp [putField]
  | cons first rest ih =>
      obtain ⟨new, distinct⟩ := List.nodup_cons.1 distinct
      unfold putField
      by_cases same : first.name = field.name
      · have apart : ∀ inside ∈ rest, inside.name ≠ field.name := fun inside member here =>
          new (same.trans here.symm ▸ List.mem_map_of_mem member)
        rw [if_pos (by simpa using same), List.mem_cons, List.mem_cons]
        refine or_congr_right ⟨fun member => ⟨.inr member, apart _ member⟩, ?_⟩
        rintro ⟨rfl | member, other⟩
        · exact absurd same other
        · exact member
      · rw [if_neg (by simpa using same), List.mem_cons, ih distinct, List.mem_cons]
        constructor
        · rintro (rfl | rfl | ⟨member, other⟩)
          · exact .inr ⟨.inl rfl, same⟩
          · exact .inl rfl
          · exact .inr ⟨.inr member, other⟩
        · rintro (rfl | ⟨rfl | member, other⟩)
          · exact .inr (.inl rfl)
          · exact .inl rfl
          · exact .inr (.inr ⟨member, other⟩)

/-! ## All the fields -/

/-- The names of the fields, in the order of their first appearance and each once. -/
theorem names_assemble (fields : List (Field Ty)) :
    (assemble fields).map Field.name = (fields.map Field.name).eraseDups := by
  induction fields using List.reverseRecOn with
  | nil => rfl
  | append_singleton fields field ih =>
      rw [assemble_concat, names_putField, ih, List.map_append, List.eraseDups_append]
      have last : ([field.name].removeAll (fields.map Field.name)).eraseDups =
          if field.name ∈ fields.map Field.name then [] else [field.name] := by
        by_cases member : field.name ∈ fields.map Field.name <;>
          simp only [List.removeAll, List.filter_cons, List.filter_nil, List.elem_eq_mem, member,
            decide_true, decide_false, Bool.not_true, Bool.not_false, if_true, if_false] <;> rfl
      rw [List.map_singleton, last, if_congr List.mem_eraseDups rfl rfl]
      split
      · rw [List.append_nil]
      · rfl

theorem nodup_assemble (fields : List (Field Ty)) : ((assemble fields).map Field.name).Nodup := by
  induction fields using List.reverseRecOn with
  | nil => exact List.nodup_nil
  | append_singleton fields field ih =>
      rw [assemble_concat]
      exact nodup_putField ih

/-- What is left of the fields are the latest ones of their names. -/
theorem mem_assemble_iff : field ∈ assemble fields ↔ latest field.name fields = some field := by
  induction fields using List.reverseRecOn with
  | nil => simp [assemble, latest]
  | append_singleton fields last ih =>
      rw [assemble_concat, mem_putField_iff (nodup_assemble fields), latest_concat, ih]
      by_cases same : last.name = field.name
      · simp [same, eq_comm]
      · have apart : field ≠ last := fun own => same (congrArg Field.name own.symm)
        simp [same, Ne.symm same, apart]

theorem name_of_latest (found : latest name fields = some field) : field.name = name := by
  simpa using List.find?_some found

/-- Among fields of different names each is the latest of its name. -/
theorem latest_eq_some_iff (distinct : (fields.map Field.name).Nodup) :
    latest name fields = some field ↔ field ∈ fields ∧ field.name = name := by
  constructor
  · intro found
    exact ⟨by simpa using List.mem_of_find?_eq_some found, name_of_latest found⟩
  · rintro ⟨member, rfl⟩
    obtain ⟨other, found⟩ : ∃ other, latest field.name fields = some other :=
      Option.isSome_iff_exists.1 (List.find?_isSome.2 ⟨field, by simpa using member, by simp⟩)
    have inside : other ∈ fields := by simpa using List.mem_of_find?_eq_some found
    rw [found, List.inj_on_of_nodup_map distinct inside member (name_of_latest found)]

/-- The latest fields are the same before and after. -/
theorem latest_assemble (name : String) (fields : List (Field Ty)) :
    latest name (assemble fields) = latest name fields := by
  refine Option.ext fun field => ?_
  rw [latest_eq_some_iff (nodup_assemble fields), mem_assemble_iff]
  constructor
  · rintro ⟨found, rfl⟩
    exact found
  · intro found
    obtain rfl := name_of_latest found
    exact ⟨found, rfl⟩

end TypedContract.Translation
