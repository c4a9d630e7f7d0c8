/-
# TypedContract.Proofs.Registry.Resolving -- where references lead

The registry follows references for a bounded number of steps and stops when a name
comes again.  `Reaches registry names type last` says without a bound that the names
lead from `type` to `last`, which is no reference.  A chain that ends so meets no name
twice, so the bound is never what stops it (`resolve_eq_iff`).
-/
import TypedContract.Proofs.Registry.Entries
import TypedContract.Proofs.Ty.Outline

namespace TypedContract.Registry

set_option autoImplicit false

variable {registry : Registry} {name : String} {names names' : List String} {type last next : Ty}

/-- The names lead from a type to one that is no reference. -/
inductive Reaches (registry : Registry) : List String → Ty → Ty → Prop where
  | here {type : Ty} (apart : ∀ name, type ≠ .reference name) : Reaches registry [] type type
  | step {name : String} {names : List String} {next last : Ty}
      (found : registry.get? name = some next) (rest : Reaches registry names next last) :
      Reaches registry (name :: names) (.reference name) last

theorem Reaches.unique {other : Ty} (first : Reaches registry names type last)
    (second : Reaches registry names' type other) : names = names' ∧ last = other := by
  induction first generalizing names' with
  | here apart =>
      cases second with
      | here => exact ⟨rfl, rfl⟩
      | step => exact absurd rfl (apart _)
  | step found rest ih =>
      cases second with
      | here apart => exact absurd rfl (apart _)
      | step found' rest' =>
          cases found.symm.trans found'
          obtain ⟨rfl, rfl⟩ := ih rest'
          exact ⟨rfl, rfl⟩

/-- What is registered later leads no way elsewhere. -/
theorem Reaches.of_prefix {later : Registry} (grown : registry.entries <+: later.entries)
    (reaches : Reaches registry names type last) : Reaches later names type last := by
  induction reaches with
  | here apart => exact .here apart
  | step found rest ih =>
      have kept := get?_of_prefix grown found
      exact .step kept ih

/-- From each name on the way the rest of the way leads on. -/
theorem Reaches.from_mem (reaches : Reaches registry names type last) (member : name ∈ names) :
    ∃ rest, rest.length ≤ names.length ∧ Reaches registry rest (.reference name) last := by
  induction reaches with
  | here => cases member
  | @step first names next last found rest ih =>
      rcases List.mem_cons.1 member with rfl | inside
      · exact ⟨name :: names, Nat.le_refl _, .step found rest⟩
      · obtain ⟨shorter, le, leads⟩ := ih inside
        exact ⟨shorter, Nat.le_succ_of_le le, leads⟩

/-- No name comes twice: from its second time on the way would be both shorter and the
same. -/
theorem Reaches.nodup (reaches : Reaches registry names type last) : names.Nodup := by
  induction reaches with
  | here => exact List.nodup_nil
  | @step name names next last found rest ih =>
      refine List.nodup_cons.2 ⟨fun again => ?_, ih⟩
      obtain ⟨shorter, le, leads⟩ := rest.from_mem again
      obtain ⟨rfl, -⟩ := leads.unique (.step found rest)
      exact absurd le (Nat.not_succ_le_self _)

theorem Reaches.subset (reaches : Reaches registry names type last) :
    names ⊆ registry.names := by
  induction reaches with
  | here => exact List.nil_subset _
  | step found rest ih =>
      exact List.cons_subset.2 ⟨mem_names_iff.2 ⟨_, found⟩, ih⟩

theorem Reaches.length_le (reaches : Reaches registry names type last) :
    names.length ≤ registry.entries.length := by
  have short := (reaches.nodup.subperm reaches.subset).length_le
  rwa [Registry.names, List.length_map] at short

theorem Reaches.follow_eq (reaches : Reaches registry names type last) {seen : List String}
    {bound : Nat} (long : names.length ≤ bound) (fresh : ∀ name ∈ names, name ∉ seen) :
    registry.follow seen bound type = last := by
  induction reaches generalizing seen bound with
  | @here type apart =>
      cases type with
      | reference name => exact absurd rfl (apart name)
      | _ => cases bound <;> rfl
  | @step name names next last found rest ih =>
      obtain ⟨bound, rfl⟩ : ∃ n, bound = n + 1 := by
        rw [List.length_cons] at long
        exact ⟨bound - 1, by omega⟩
      have unseen : name ∉ seen := fresh name List.mem_cons_self
      simp only [follow, List.contains_iff_mem, if_neg unseen, found]
      refine ih (Nat.le_of_succ_le_succ long) fun other member again => ?_
      rcases List.mem_cons.1 again with rfl | earlier
      · exact (List.nodup_cons.1 (Reaches.step found rest).nodup).1 member
      · exact fresh other (List.mem_cons_of_mem _ member) earlier

theorem reaches_of_follow {seen : List String} {bound : Nat}
    (followed : registry.follow seen bound type = last) (apart : ∀ name, last ≠ .reference name) :
    ∃ names, Reaches registry names type last := by
  induction bound generalizing seen type with
  | zero =>
      obtain rfl : type = last := by cases type <;> exact followed
      exact ⟨[], .here apart⟩
  | succ bound ih =>
      cases type with
      | reference name =>
          unfold follow at followed
          split at followed
          · exact absurd followed.symm (apart name)
          · split at followed
            · rename_i target found
              obtain ⟨names, rest⟩ := ih followed
              exact ⟨name :: names, .step found rest⟩
            · exact absurd followed.symm (apart name)
      | _ =>
          obtain rfl := followed
          exact ⟨[], .here apart⟩

/-- References are followed to their end. -/
theorem resolve_eq_iff (apart : ∀ name, last ≠ .reference name) :
    registry.resolve type = last ↔ ∃ names, Reaches registry names type last := by
  constructor
  · intro followed
    exact reaches_of_follow followed apart
  · rintro ⟨names, reaches⟩
    exact reaches.follow_eq (Nat.le_succ_of_le reaches.length_le) fun _ _ => List.not_mem_nil

theorem ne_reference_of_isRecord (record : type.isRecord = true) (name : String) :
    type ≠ .reference name := by
  rintro rfl
  cases record

/-- A reference to what leads to a record leads there too. -/
theorem resolve_reference (found : registry.get? name = some next)
    (record : (registry.resolve next).isRecord = true) :
    registry.resolve (.reference name) = registry.resolve next := by
  have apart := ne_reference_of_isRecord record
  obtain ⟨names, reaches⟩ := (resolve_eq_iff apart).1 rfl
  exact (resolve_eq_iff apart).2 ⟨name :: names, .step found reaches⟩

/-! ## Registries with the same types -/

/-- The registries have the same types under the same names, but for the reasons of
unknown types. -/
def Agrees (registry other : Registry) : Prop :=
  ∀ name, (registry.get? name).map Ty.unreasoned = (other.get? name).map Ty.unreasoned

theorem Agrees.symm {other : Registry} (agrees : registry.Agrees other) : other.Agrees registry :=
  fun name => (agrees name).symm

theorem Agrees.get? {other : Registry} (agrees : registry.Agrees other)
    (found : registry.get? name = some type) :
    ∃ type', other.get? name = some type' ∧ type.unreasoned = type'.unreasoned := by
  have same := agrees name
  rw [found, Option.map_some] at same
  obtain ⟨type', found', same⟩ := Option.map_eq_some_iff.1 same.symm
  exact ⟨type', found', same.symm⟩

theorem Agrees.reaches {other : Registry} {type' : Ty} (agrees : registry.Agrees other)
    (same : type.unreasoned = type'.unreasoned) (reaches : Reaches registry names type last) :
    ∃ last', Reaches other names type' last' ∧ last.unreasoned = last'.unreasoned := by
  induction reaches generalizing type' with
  | @here type apart =>
      refine ⟨type', .here fun name isReference => ?_, same⟩
      rw [Ty.unreasoned_eq_reference.2 isReference, Ty.unreasoned_eq_reference] at same
      exact apart name same
  | @step name names next last found rest ih =>
      obtain rfl : type' = .reference name :=
        Ty.unreasoned_eq_reference.1 (same.symm.trans (Ty.unreasoned_eq_reference.2 rfl))
      obtain ⟨next', found', same'⟩ := agrees.get? found
      obtain ⟨last', rest', lastSame⟩ := ih same'
      exact ⟨last', .step found' rest', lastSame⟩

/-- In registries with the same types, references lead to the same records. -/
theorem Agrees.resolve {other : Registry} {type' : Ty} (agrees : registry.Agrees other)
    (same : type.unreasoned = type'.unreasoned) (record : (registry.resolve type).isRecord = true) :
    (registry.resolve type).unreasoned = (other.resolve type').unreasoned := by
  obtain ⟨names, reaches⟩ := (resolve_eq_iff (ne_reference_of_isRecord record)).1 rfl
  obtain ⟨last', reaches', lastSame⟩ := agrees.reaches same reaches
  have record' : last'.isRecord = true := by
    rw [← Ty.isRecord_unreasoned, ← lastSame, Ty.isRecord_unreasoned]
    exact record
  rw [lastSame, (resolve_eq_iff (ne_reference_of_isRecord record')).2 ⟨names, reaches'⟩]

end TypedContract.Registry
