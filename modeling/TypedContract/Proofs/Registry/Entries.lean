/-
# TypedContract.Proofs.Registry.Entries -- what the registry operations do

The entries are looked up by name, so everything below is said through `get?`,
`contains` and the list of entries.  A registration that begins marks a name that
was neither registered nor in progress (`enter_eq_inr_iff`), so the type it ends
with comes last (`entries_leave`) and nothing stored before moves.  `uniqueName`
always finds a name that is free (`uniqueName_free`): among one name more than
can be taken, one is not.
-/
import TypedContract.Registry.Basic
import Mathlib.Data.List.Perm.Subperm
import Mathlib.Data.List.Nodup
import Std.Data.String.ToNat

namespace TypedContract.Registry

set_option autoImplicit false

variable {registry : Registry} {name other base : String} {type : Ty}

/-! ## Looking up -/

theorem contains_iff :
    registry.contains name = true ↔ (∃ type, registry.get? name = some type) ∨ name ∈ registry.building := by
  simp [contains, inProgress, Option.isSome_iff_exists]

theorem get?_eq_none_iff : registry.get? name = none ↔ name ∉ registry.names := by
  simp only [get?, names, List.lookup_eq_none_iff, List.mem_map, not_exists, not_and, bne_iff_ne]
  constructor
  · rintro absent entry member rfl
    exact absent entry member rfl
  · intro absent entry member same
    exact absent entry member same.symm

theorem mem_names_iff : name ∈ registry.names ↔ ∃ type, registry.get? name = some type := by
  rw [← Option.isSome_iff_exists, ← Option.ne_none_iff_isSome, ne_eq, get?_eq_none_iff, not_not]

theorem mem_entries_of_get? (found : registry.get? name = some type) :
    (name, type) ∈ registry.entries := by
  unfold get? at found
  generalize registry.entries = entries at found
  induction entries with
  | nil => simp at found
  | cons entry rest ih =>
      obtain ⟨key, value⟩ := entry
      rw [List.lookup_cons] at found
      split at found
      · rename_i same
        obtain rfl := Option.some.inj found
        rw [eq_of_beq same]
        exact List.mem_cons_self
      · exact List.mem_cons_of_mem _ (ih found)

/-- A lookup in a longer list of entries finds what it found before. -/
theorem get?_of_prefix {later : Registry} (grown : registry.entries <+: later.entries)
    (found : registry.get? name = some type) : later.get? name = some type := by
  obtain ⟨more, appended⟩ := grown
  unfold get? at found ⊢
  rw [← appended, List.lookup_append, found]
  rfl

/-! ## Storing -/

theorem putEntry_of_absent {entries : List (String × Ty)} (absent : entries.lookup name = none) :
    putEntry name type entries = entries ++ [(name, type)] := by
  induction entries with
  | nil => rfl
  | cons entry rest ih =>
      obtain ⟨key, old⟩ := entry
      rw [List.lookup_cons] at absent
      split at absent
      · simp at absent
      · rename_i apart
        have different : ¬ (key == name) = true := fun same => by
          rw [eq_of_beq same, beq_self_eq_true] at apart
          cases apart
        simp only [putEntry, if_neg different, ih absent, List.cons_append]

theorem mem_names_putEntry {entries : List (String × Ty)} :
    other ∈ (putEntry name type entries).map Prod.fst ↔
      other = name ∨ other ∈ entries.map Prod.fst := by
  induction entries with
  | nil => simp [putEntry]
  | cons entry rest ih =>
      obtain ⟨key, old⟩ := entry
      unfold putEntry
      split
      · rename_i same
        rw [eq_of_beq same]
        simp
      · rw [List.map_cons, List.mem_cons, ih, List.map_cons, List.mem_cons]
        exact or_left_comm

theorem lookup_putEntry_self {entries : List (String × Ty)} :
    (putEntry name type entries).lookup name = some type := by
  induction entries with
  | nil => simp [putEntry]
  | cons entry rest ih =>
      obtain ⟨key, old⟩ := entry
      unfold putEntry
      split
      · rename_i same
        rw [List.lookup_cons, eq_of_beq same, beq_self_eq_true]
      · rename_i apart
        have different : (name == key) = false := by
          rw [beq_eq_false_iff_ne]
          exact fun same => apart (beq_iff_eq.2 same.symm)
        rw [List.lookup_cons, different]
        exact ih

theorem lookup_putEntry_of_ne {entries : List (String × Ty)} (apart : other ≠ name) :
    (putEntry name type entries).lookup other = entries.lookup other := by
  induction entries with
  | nil => simp [putEntry, List.lookup_cons, beq_eq_false_iff_ne.2 apart]
  | cons entry rest ih =>
      obtain ⟨key, old⟩ := entry
      unfold putEntry
      split
      · rename_i same
        have different : (other == key) = false := beq_eq_false_iff_ne.2 (eq_of_beq same ▸ apart)
        rw [List.lookup_cons, List.lookup_cons, different]
      · rw [List.lookup_cons, List.lookup_cons, ih]

/-- A type that is stored under a new name leaves the entries before it where they are. -/
theorem prefix_putEntry {prior entries : List (String × Ty)} (new : name ∉ prior.map Prod.fst)
    (kept : prior <+: entries) : prior <+: putEntry name type entries := by
  obtain ⟨more, rfl⟩ := kept
  induction prior with
  | nil => exact List.nil_prefix
  | cons entry rest ih =>
      rw [List.map_cons, List.mem_cons, not_or] at new
      have different : ¬ (entry.1 == name) = true := fun same => new.1 (eq_of_beq same).symm
      simp only [List.cons_append, putEntry, if_neg different]
      exact List.cons_prefix_cons.2 ⟨rfl, ih new.2⟩

theorem get?_append_self {entries : List (String × Ty)} (absent : entries.lookup name = none) :
    (entries ++ [(name, type)]).lookup name = some type := by
  rw [List.lookup_append, absent]
  simp

/-! ## Beginning and ending a registration -/

theorem enter_eq_inr_iff {begun : Registry} :
    registry.enter name = .inr begun ↔
      registry.contains name = false ∧ begun = registry.start name := by
  unfold enter contains
  cases registry.get? name with
  | some found => simp
  | none => cases registry.inProgress name <;> simp [eq_comm]

theorem enter_eq_inl_iff :
    registry.enter name = .inl type ↔
      registry.get? name = some type ∨
        registry.get? name = none ∧ name ∈ registry.building ∧ type = .reference name := by
  unfold enter inProgress
  cases registry.get? name with
  | some found => simp
  | none => cases h : registry.building.contains name <;> simp_all [eq_comm]

@[simp] theorem entries_start : (registry.start name).entries = registry.entries := rfl

@[simp] theorem building_start : (registry.start name).building = name :: registry.building := rfl

@[simp] theorem reserved_start : (registry.start name).reserved = registry.reserved := rfl

theorem contains_start {other : String} (held : registry.contains other = true) :
    (registry.start name).contains other = true := by
  rw [contains_iff] at held ⊢
  exact held.imp_right (List.mem_cons_of_mem _)

/-- The type that a registration ends with comes last. -/
theorem entries_leave (absent : registry.get? name = none) :
    (registry.leave name (some type)).entries = registry.entries ++ [(name, type)] :=
  putEntry_of_absent absent

@[simp] theorem building_leave {built : Option Ty} :
    (registry.leave name built).building = registry.building.filter (· != name) := by
  cases built <;> rfl

@[simp] theorem reserved_leave {built : Option Ty} :
    (registry.leave name built).reserved = registry.reserved := by
  cases built <;> rfl

theorem filter_cons_ne {names : List String} (fresh : name ∉ names) :
    (name :: names).filter (· != name) = names := by
  rw [List.filter_cons_of_neg (by simp)]
  exact List.filter_eq_self.2 fun other member => by
    simpa using fun same : other = name => fresh (same ▸ member)

/-! ## Rolling back -/

/-- The length of a beginning of the entries is a mark that keeps just this beginning. -/
theorem entries_rollback_of_prefix {prior : List (String × Ty)} (kept : prior <+: registry.entries) :
    (registry.rollback prior.length).entries = prior := by
  obtain ⟨more, appended⟩ := kept
  have mark : ¬ ((prior.length : Int) < 0) := by omega
  simp [rollback, Registry.kept, mark, ← appended]

/-- A mark that lies not before the end of a beginning keeps this beginning. -/
theorem prefix_rollback {prior : List (String × Ty)} {mark : Int}
    (kept : prior <+: registry.entries) (above : prior.length ≤ mark) :
    prior <+: (registry.rollback mark).entries := by
  have forward : ¬ mark < 0 := by omega
  have long : prior.length ≤ mark.toNat := by omega
  simp only [rollback, Registry.kept, if_neg forward]
  exact List.prefix_take_iff.2 ⟨kept, long⟩

/-! ## Free names -/

/-- The names that no new type may be given. -/
def taken (registry : Registry) : List String :=
  registry.names ++ registry.building ++ registry.reserved

theorem isTaken_iff : registry.isTaken name = true ↔ name ∈ registry.taken := by
  simp only [isTaken, Bool.or_eq_true, contains_iff, ← mem_names_iff, List.contains_iff_mem, taken,
    List.mem_append]

theorem length_taken : registry.taken.length = registry.nameCount := by
  simp only [taken, nameCount, names, List.length_append, List.length_map]

theorem numbered_injective : Function.Injective (numbered base) := by
  intro n m same
  unfold numbered at same
  exact Nat.repr_injective (String.append_right_inj _ |>.1 same)

/-- The search stops at a free number, or every number it tried is taken. -/
theorem firstFree_taken {n bound : Nat}
    (full : registry.isTaken (registry.firstFree base n bound) = true) :
    ∀ i ≤ bound, registry.isTaken (numbered base (n + i)) = true := by
  induction bound generalizing n with
  | zero =>
      intro i small
      obtain rfl : i = 0 := by omega
      exact full
  | succ bound ih =>
      simp only [firstFree] at full
      split at full
      · rename_i first
        intro i small
        cases i with
        | zero => exact first
        | succ i =>
            have := ih full i (by omega)
            rwa [show n + (i + 1) = n + 1 + i by omega]
      · rename_i first
        exact absurd full first

theorem uniqueName_free : registry.isTaken (registry.uniqueName base) = false := by
  unfold uniqueName
  split
  · by_contra full
    rw [Bool.not_eq_false] at full
    have all := firstFree_taken full
    have inside : (List.range (registry.nameCount + 1)).map (fun i => numbered base (2 + i)) ⊆
        registry.taken := by
      intro tried member
      obtain ⟨i, small, rfl⟩ := List.mem_map.1 member
      exact isTaken_iff.1 (all i (by have := List.mem_range.1 small; omega))
    have distinct : ((List.range (registry.nameCount + 1)).map
        fun i => numbered base (2 + i)).Nodup := by
      refine List.Nodup.map (fun i j same => ?_) List.nodup_range
      have := numbered_injective same
      omega
    have short := (distinct.subperm inside).length_le
    rw [length_taken, List.length_map, List.length_range] at short
    omega
  · rename_i free
    simpa using free

theorem uniqueName_spec :
    registry.contains (registry.uniqueName base) = false ∧
      registry.uniqueName base ∉ registry.reserved := by
  have free : registry.isTaken (registry.uniqueName base) = false := uniqueName_free
  simp only [isTaken, Bool.or_eq_false_iff] at free
  exact ⟨free.1, by simpa using free.2⟩

end TypedContract.Registry
