/-
# TypedContract.Proofs.Registry.Dangling -- the names that are missing

A reference stands at a place of a type: the numbers of the parts that lead to it from outside
inwards.  The parts of a record are its fields and those of a union its members; an array and a
mapping have one, with the number zero.  Places are compared number by number, so a place comes
before another when it has the smaller number where the two part, and the order is that of reading
from left to right.

`ReadInOrder` says of a list of names that it is such a reading: the names stand at the places where
they occur, all of them, from left to right.  The readings of the parts, one after the other, are
the reading of the whole (`ReadInOrder.flatMap`); from this follows that of a type, by induction on
it, and that of the registry, whose parts are its entries.

What the registry lists as missing is kept along the reading.  `ListsMissing` says what has been
listed after some names were met: those that are not registered, each before all that were met only
later.  Meeting one more name keeps it (`ListsMissing.skip`, `ListsMissing.add`), and at the end of
the reading it is the whole statement, with names met turned into places (`ReadInOrder.first`).
-/
import TypedContract.Proofs.Ty.References

namespace TypedContract

set_option autoImplicit false

/-! ## Places -/

/-- A reference to the name stands at this place of the type. -/
inductive Ty.RefersAt : Ty → List Nat → String → Prop where
  | here {name : String} : RefersAt (.reference name) [] name
  | element {element : Ty} {path : List Nat} {name : String}
      (inside : RefersAt element path name) : RefersAt (.array element) (0 :: path) name
  | value {value : Ty} {path : List Nat} {name : String}
      (inside : RefersAt value path name) : RefersAt (.map value) (0 :: path) name
  | field {record : Option String} {fields : List (Field Ty)} {text : String} {i : Nat}
      {field : Field Ty} {path : List Nat} {name : String} (found : fields[i]? = some field)
      (inside : RefersAt field.type path name) :
      RefersAt (.record record fields text) (i :: path) name
  | member {union : Option String} {members : List Ty} {i : Nat} {member : Ty}
      {path : List Nat} {name : String} (found : members[i]? = some member)
      (inside : RefersAt member path name) : RefersAt (.union union members) (i :: path) name

/-- A reference to the name stands at this place of a registered type, after the number of the
entry. -/
inductive Registry.RefersAt (registry : Registry) : List Nat → String → Prop where
  | entry {i : Nat} {entry : String × Ty} {path : List Nat} {name : String}
      (found : registry.entries[i]? = some entry) (inside : entry.2.RefersAt path name) :
      RefersAt registry (i :: path) name

/-! ## Reading from left to right -/

/-- The names are those that occur, from the leftmost place to the rightmost. -/
def ReadInOrder (occurs : List Nat → String → Prop) (names : List String) : Prop :=
  ∃ spots : List (List Nat × String), spots.map (·.2) = names ∧
    spots.Pairwise (fun spot later => spot.1 < later.1) ∧
    ∀ path name, (path, name) ∈ spots ↔ occurs path name

namespace ReadInOrder

variable {occurs occurs' : List Nat → String → Prop} {names : List String}

theorem congr (walks : ReadInOrder occurs names)
    (same : ∀ path name, occurs path name ↔ occurs' path name) : ReadInOrder occurs' names := by
  obtain ⟨spots, named, ordered, every⟩ := walks
  exact ⟨spots, named, ordered, fun path name => (every path name).trans (same path name)⟩

theorem nil (none : ∀ path name, ¬ occurs path name) : ReadInOrder occurs [] :=
  ⟨[], rfl, .nil, fun path name => by simp [none]⟩

theorem mem_iff (walks : ReadInOrder occurs names) {name : String} :
    name ∈ names ↔ ∃ path, occurs path name := by
  obtain ⟨spots, rfl, -, every⟩ := walks
  simp only [List.mem_map, Prod.exists, ← every]
  constructor
  · rintro ⟨path, _, member, rfl⟩
    exact ⟨path, member⟩
  · rintro ⟨path, member⟩
    exact ⟨path, name, member, rfl⟩

/-- The reading of a part is a reading of what stands under its number. -/
theorem under (k : Nat) (walks : ReadInOrder occurs names) :
    ReadInOrder (fun path name => ∃ rest, path = k :: rest ∧ occurs rest name) names := by
  obtain ⟨spots, rfl, ordered, every⟩ := walks
  refine ⟨spots.map fun spot => (k :: spot.1, spot.2), List.map_map, ?_, fun path name => ?_⟩
  · refine List.pairwise_map.2 (ordered.imp fun before => ?_)
    exact List.cons_lt_cons_iff.2 (.inr ⟨rfl, before⟩)
  · simp only [List.mem_map, Prod.exists, Prod.mk.injEq, every]
    constructor
    · rintro ⟨rest, _, inside, rfl, rfl⟩
      exact ⟨rest, rfl, inside⟩
    · rintro ⟨rest, rfl, inside⟩
      exact ⟨rest, name, inside, rfl, rfl⟩

/-- What is read further right is read behind the rest. -/
theorem append {more : List String} (walks : ReadInOrder occurs names)
    (walks' : ReadInOrder occurs' more)
    (apart : ∀ path name path' name', occurs path name → occurs' path' name' → path < path') :
    ReadInOrder (fun path name => occurs path name ∨ occurs' path name) (names ++ more) := by
  obtain ⟨spots, rfl, ordered, every⟩ := walks
  obtain ⟨spots', rfl, ordered', every'⟩ := walks'
  refine ⟨spots ++ spots', List.map_append, ?_, fun path name => ?_⟩
  · refine List.pairwise_append.2 ⟨ordered, ordered', fun spot member later member' => ?_⟩
    exact apart _ _ _ _ ((every spot.1 spot.2).1 member) ((every' later.1 later.2).1 member')
  · rw [List.mem_append, every, every']

section

variable {α : Type} {items : List α} {inside : α → List Nat → String → Prop}
  {names : α → List String}

/-- The readings of some parts, numbered from a number on, make up the reading of them all. -/
theorem flatMap_from (k : Nat) (each : ∀ item ∈ items, ReadInOrder (inside item) (names item)) :
    ReadInOrder (fun path name => ∃ i rest item, path = (k + i) :: rest ∧ items[i]? = some item ∧
      inside item rest name) (items.flatMap names) := by
  induction items generalizing k with
  | nil =>
      apply ReadInOrder.nil
      rintro path name ⟨i, rest, item, -, found, -⟩
      simp at found
  | cons first items ih =>
      have head := (each first List.mem_cons_self).under k
      have tail := ih (k + 1) fun item member => each item (List.mem_cons_of_mem _ member)
      refine (head.append tail ?_).congr fun path name => ?_
      · rintro _ _ _ _ ⟨_, rfl, -⟩ ⟨i, _, _, rfl, -⟩
        exact List.cons_lt_cons_iff.2 (.inl (by omega))
      · constructor
        · rintro (⟨rest, rfl, occurs⟩ | ⟨i, rest, item, rfl, found, occurs⟩)
          · exact ⟨0, rest, first, rfl, rfl, occurs⟩
          · exact ⟨i + 1, rest, item, by rw [Nat.add_right_comm, Nat.add_assoc], found, occurs⟩
        · rintro ⟨i, rest, item, rfl, found, occurs⟩
          cases i with
          | zero =>
              obtain rfl := Option.some.inj found
              exact .inl ⟨rest, rfl, occurs⟩
          | succ i =>
              exact .inr ⟨i, rest, item, by rw [Nat.add_right_comm, Nat.add_assoc], found, occurs⟩

/-- The readings of all parts, one after the other, are the reading of the whole. -/
theorem flatMap (each : ∀ item ∈ items, ReadInOrder (inside item) (names item)) :
    ReadInOrder (fun path name => ∃ i rest item, path = i :: rest ∧ items[i]? = some item ∧
      inside item rest name) (items.flatMap names) :=
  (flatMap_from 0 each).congr fun path name => by simp only [Nat.zero_add]

end

end ReadInOrder

namespace Ty

mutual

/-- The names that a type refers to are read off from left to right. -/
theorem readInOrder_references : ∀ type : Ty, ReadInOrder type.RefersAt type.references
  | .reference name => by
      refine ⟨[([], name)], rfl, List.pairwise_singleton _ _, fun path other => ?_⟩
      rw [List.mem_singleton]
      constructor
      · rintro ⟨⟩
        exact .here
      · rintro ⟨⟩
        rfl
  | .array element => by
      refine ((readInOrder_references element).under 0).congr fun path name => ?_
      constructor
      · rintro ⟨rest, rfl, inside⟩
        exact .element inside
      · rintro ⟨⟩
        exact ⟨_, rfl, ‹_›⟩
  | .map value => by
      refine ((readInOrder_references value).under 0).congr fun path name => ?_
      constructor
      · rintro ⟨rest, rfl, inside⟩
        exact .value inside
      · rintro ⟨⟩
        exact ⟨_, rfl, ‹_›⟩
  | .record _ fields _ => by
      rw [references_record]
      refine (ReadInOrder.flatMap (readInOrder_fields fields)).congr fun path name => ?_
      constructor
      · rintro ⟨i, rest, field, rfl, found, inside⟩
        exact .field found inside
      · rintro ⟨⟩
        exact ⟨_, _, _, rfl, ‹_›, ‹_›⟩
  | .union _ members => by
      rw [references_union]
      refine (ReadInOrder.flatMap (readInOrder_members members)).congr fun path name => ?_
      constructor
      · rintro ⟨i, rest, member, rfl, found, inside⟩
        exact .member found inside
      · rintro ⟨⟩
        exact ⟨_, _, _, rfl, ‹_›, ‹_›⟩
  | .primitive _ | .unknown _ => ReadInOrder.nil fun _ _ => nofun

theorem readInOrder_members : ∀ members : List Ty, ∀ member ∈ members,
    ReadInOrder member.RefersAt member.references
  | [] => nofun
  | first :: rest => List.forall_mem_cons.2 ⟨readInOrder_references first, readInOrder_members rest⟩

theorem readInOrder_fields : ∀ fields : List (Field Ty), ∀ field ∈ fields,
    ReadInOrder field.type.RefersAt field.type.references
  | [] => nofun
  | ⟨_, type, _, _, _, _⟩ :: rest =>
      List.forall_mem_cons.2 ⟨readInOrder_references type, readInOrder_fields rest⟩

end

end Ty

/-! ## What has been listed -/

/-- The first of the names was met before the second, if that was met at all. -/
def Precedes (met : List String) (name later : String) : Prop :=
  ∃ before after, met = before ++ name :: after ∧ later ∉ before ∧ later ≠ name

theorem Precedes.append {met more : List String} {name later : String}
    (precedes : Precedes met name later) : Precedes (met ++ more) name later := by
  obtain ⟨before, after, rfl, absent, apart⟩ := precedes
  exact ⟨before, after ++ more, by rw [List.append_assoc, List.cons_append], absent, apart⟩

/-- A name that has been met precedes every name that has not. -/
theorem precedes_of_mem {met : List String} {name later : String} (member : name ∈ met)
    (absent : later ∉ met) : Precedes met name later := by
  obtain ⟨before, after, rfl⟩ := List.append_of_mem member
  rw [List.mem_append, List.mem_cons, not_or, not_or] at absent
  exact ⟨before, after, rfl, absent.1, absent.2.1⟩

/-- The name that was met first occurs left of every occurrence of the other. -/
theorem ReadInOrder.first {occurs : List Nat → String → Prop} {names : List String}
    (walks : ReadInOrder occurs names) {name later : String}
    (precedes : Precedes names name later) :
    ∃ path, occurs path name ∧ ∀ path', occurs path' later → path < path' := by
  obtain ⟨spots, named, ordered, every⟩ := walks
  obtain ⟨before, after, same, absent, apart⟩ := precedes
  obtain ⟨front, back, rfl, rfl, named⟩ := List.map_eq_append_iff.1 (named.trans same)
  obtain ⟨⟨path, name⟩, back, rfl, rfl, -⟩ := List.map_eq_cons_iff.1 named
  refine ⟨path, (every path name).1 (by simp), fun path' occurs' => ?_⟩
  have member := (every path' later).2 occurs'
  rw [List.mem_append, List.mem_cons] at member
  rcases member with earlier | own | beyond
  · exact absurd (List.mem_map_of_mem earlier) absent
  · exact absurd (congrArg Prod.snd own) apart
  · exact (List.pairwise_cons.1 (List.pairwise_append.1 ordered).2.1).1 _ beyond

namespace Registry

variable {registry : Registry} {met missing : List String} {name : String}

/-- What is listed as missing once some names have been met: those that are not registered, each
before the ones that were met after it. -/
structure ListsMissing (registry : Registry) (met missing : List String) : Prop where
  mem_iff : ∀ name, name ∈ missing ↔ name ∈ met ∧ name ∉ registry.names
  ordered : missing.Pairwise (Precedes met)

namespace ListsMissing

/-- A name that is registered or listed is not listed again. -/
theorem skip (lists : ListsMissing registry met missing)
    (known : name ∈ registry.names ∨ name ∈ missing) :
    ListsMissing registry (met ++ [name]) missing where
  mem_iff other := by
    rw [lists.mem_iff, List.mem_append, List.mem_singleton]
    constructor
    · exact fun ⟨member, absent⟩ => ⟨.inl member, absent⟩
    · rintro ⟨member | rfl, absent⟩
      · exact ⟨member, absent⟩
      · exact (lists.mem_iff _).1 (known.resolve_left absent)
  ordered := lists.ordered.imp Precedes.append

/-- A name that is neither is listed after those that were. -/
theorem add (lists : ListsMissing registry met missing) (unregistered : name ∉ registry.names)
    (new : name ∉ missing) : ListsMissing registry (met ++ [name]) (missing ++ [name]) where
  mem_iff other := by
    simp only [List.mem_append, List.mem_singleton, lists.mem_iff]
    constructor
    · rintro (⟨member, absent⟩ | rfl)
      · exact ⟨.inl member, absent⟩
      · exact ⟨.inr rfl, unregistered⟩
    · rintro ⟨member | rfl, absent⟩
      · exact .inl ⟨member, absent⟩
      · exact .inr rfl
  ordered := by
    have unmet : name ∉ met := fun member => new ((lists.mem_iff name).2 ⟨member, unregistered⟩)
    refine List.pairwise_append.2 ⟨lists.ordered.imp Precedes.append, List.pairwise_singleton _ _,
      fun other member last inside => ?_⟩
    obtain rfl := List.mem_singleton.1 inside
    exact (precedes_of_mem ((lists.mem_iff other).1 member).1 unmet).append

theorem addMissing {names : List String} (lists : ListsMissing registry met missing) :
    ListsMissing registry (met ++ names) (registry.addMissing missing names) := by
  induction names generalizing met missing with
  | nil => rwa [List.append_nil]
  | cons name rest ih =>
      rw [List.append_cons, Registry.addMissing]
      split
      · rename_i known
        rw [Bool.or_eq_true, Option.isSome_iff_exists, ← mem_names_iff,
          List.contains_iff_mem] at known
        exact ih (lists.skip known)
      · rename_i known
        rw [Bool.or_eq_true, Option.isSome_iff_exists, ← mem_names_iff, List.contains_iff_mem,
          not_or] at known
        exact ih (lists.add known.1 known.2)

end ListsMissing

/-- What the entries refer to is read off entry by entry. -/
theorem readInOrder_entries (registry : Registry) : ReadInOrder registry.RefersAt
    (registry.entries.flatMap fun entry => entry.2.references) := by
  refine (ReadInOrder.flatMap fun entry _ =>
    entry.2.readInOrder_references).congr fun path name => ?_
  constructor
  · rintro ⟨i, rest, entry, rfl, found, inside⟩
    exact .entry found inside
  · rintro ⟨⟩
    exact ⟨_, _, _, rfl, ‹_›, ‹_›⟩

/-- The names that are missing are those that a registered type refers to, at whatever place, and
that are not registered.  Each is listed once, and one that is listed before another occurs left
of all its occurrences. -/
theorem dangling_exact (registry : Registry) :
    registry.dangling.Nodup ∧
    (∀ name, name ∈ registry.dangling ↔
      (∃ path, registry.RefersAt path name) ∧ name ∉ registry.names) ∧
    registry.dangling.Pairwise fun name later =>
      ∃ path, registry.RefersAt path name ∧
        ∀ path', registry.RefersAt path' later → path < path' := by
  have walks := registry.readInOrder_entries
  have start : ListsMissing registry [] [] := ⟨by simp, .nil⟩
  have lists : ListsMissing registry _ registry.dangling := start.addMissing
  refine ⟨lists.ordered.imp ?_, fun name => ?_, lists.ordered.imp walks.first⟩
  · rintro name later ⟨-, -, -, -, apart⟩
    exact apart.symm
  · rw [lists.mem_iff, ← walks.mem_iff, List.nil_append]

example :
    ({ entries := [("Pet", .array (.reference "Owner")), ("Order", .union none
      [.reference "Line", .map (.reference "Owner"), .reference "Pet"])] } : Registry).dangling =
      ["Owner", "Line"] := by decide +kernel

end Registry

end TypedContract
