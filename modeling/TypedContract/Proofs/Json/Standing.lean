/-
# TypedContract.Proofs.Json.Standing -- where the parts of a document stand

A node carries a place, and nothing in it says that its value is the one that stands
there.  For a node `Stands` says so; the root stands and a value put in for a missing one
has no place.  What is reached from a node by its members, elements and entries is
`Inside` it, and what is inside a standing node stands again (`Stands.of_inside`).
-/
import TypedContract.Document.Contract
import TypedContract.Proofs.Steps

namespace TypedContract

set_option autoImplicit false

/-! ## Parts of a document -/

namespace Json

theorem same_text_iff {value : Json} {text : String} : value.same (.str text) = true ↔ value = .str text := by
  cases value with
  | str held =>
      rw [Json.same, beq_iff_eq, Json.str.injEq]
  | _ => constructor <;> (intro same; cases same)

theorem text_same_iff {value : Json} {text : String} : (Json.str text).same value = true ↔ value = .str text := by
  cases value with
  | str held =>
      rw [Json.same, beq_iff_eq, Json.str.injEq]
      exact eq_comm
  | _ => constructor <;> (intro same; cases same)

theorem at?_cons_list {position : Nat} {path : List Nat} {items : List Json} :
    at? (position :: path) (.list items) = items[position]?.bind (at? path) := rfl

theorem at?_cons_object {position : Nat} {path : List Nat} {entries : List (String × Json)} :
    at? (position :: path) (.object entries) = entries[position]?.bind fun entry => at? path entry.2 :=
  rfl

theorem at?_append {path rest : List Nat} {value : Json} :
    value.at? (path ++ rest) = (value.at? path).bind (at? rest) := by
  induction path generalizing value with
  | nil => rfl
  | cons first path ih =>
      cases value with
      | list items =>
          rw [List.cons_append, at?_cons_list, at?_cons_list]
          cases items[first]? with
          | none => rfl
          | some item => exact ih
      | object entries =>
          rw [List.cons_append, at?_cons_object, at?_cons_object]
          cases entries[first]? with
          | none => rfl
          | some entry => exact ih
      | _ => rfl

theorem getElem?_of_find? {name : String} {entries : List (String × Json)} {position : Nat}
    {value : Json} (here : position? name entries = some position)
    (found : find? name entries = some value) : entries[position]? = some (name, value) := by
  induction entries generalizing position with
  | nil => cases here
  | cons entry rest ih =>
      obtain ⟨key, held⟩ := entry
      simp only [position?, find?] at here found
      split at here
      · rename_i same
        rw [if_pos same] at found
        cases here
        cases found
        rw [eq_of_beq same]
        rfl
      · rename_i apart
        rw [if_neg apart] at found
        obtain ⟨before, earlier, rfl⟩ := Option.map_eq_some_iff.1 here
        simpa using ih earlier found

theorem exists_position? {name : String} {entries : List (String × Json)} {value : Json}
    (found : find? name entries = some value) : ∃ position, position? name entries = some position := by
  induction entries with
  | nil => cases found
  | cons entry rest ih =>
      simp only [find?, position?] at found ⊢
      split
      · exact ⟨0, rfl⟩
      · rename_i apart
        rw [if_neg apart] at found
        obtain ⟨position, here⟩ := ih found
        exact ⟨position + 1, by rw [here]; rfl⟩

theorem mem_of_find? {name : String} {entries : List (String × Json)} {value : Json}
    (found : find? name entries = some value) : (name, value) ∈ entries := by
  induction entries with
  | nil => cases found
  | cons entry rest ih =>
      obtain ⟨key, held⟩ := entry
      unfold find? at found
      split at found
      · rename_i same
        cases found
        rw [eq_of_beq same]
        exact List.mem_cons_self
      · exact List.mem_cons_of_mem _ (ih found)

theorem exists_find? {entry : String × Json} {entries : List (String × Json)}
    (member : entry ∈ entries) : ∃ value, find? entry.1 entries = some value := by
  induction entries with
  | nil => cases member
  | cons first rest ih =>
      unfold find?
      split
      · exact ⟨_, rfl⟩
      · rename_i apart
        rcases List.mem_cons.1 member with rfl | inside
        · exact absurd (beq_self_eq_true _) apart
        · exact ih inside

end Json

namespace Node

/-- A node whose place is in the document has the value that stands there. -/
def Stands (number : Nat) (contract : Json) (node : Node) : Prop :=
  ∀ place, node.place = some place →
    place.document = number ∧ contract.at? place.path = some node.value

variable {number : Nat} {contract : Json} {node : Node}

theorem stands_root : (root number contract).Stands number contract := by
  rintro place ⟨⟩
  exact ⟨rfl, rfl⟩

theorem value_of_find? {name : String} {entries : List (String × Json)} {found : Node}
    (held : node.find? name entries = some found) : Json.find? name entries = some found.value := by
  unfold Node.find? at held
  split at held
  · rename_i inside
    cases held
    exact inside
  · cases held

theorem exists_find? (node : Node) {name : String} {entries : List (String × Json)} {value : Json}
    (held : Json.find? name entries = some value) :
    ∃ found, node.find? name entries = some found ∧ found.value = value := by
  obtain ⟨position, here⟩ := Json.exists_position? held
  exact ⟨node.child position value, by rw [Node.find?, here, held], rfl⟩

theorem exists_required_of_find? {name : String} {entries : List (String × Json)} {value : Json}
    (object : node.value = .object entries) (held : Json.find? name entries = some value) :
    ∃ found, node.required name = .ok found ∧ found.value = value := by
  obtain ⟨found, here, same⟩ := exists_find? node held
  exact ⟨found, by simp only [Node.required, object, here], same⟩

theorem value_of_required {name : String} {found : Node} (held : node.required name = .ok found) :
    node.value.required name = .ok found.value := by
  unfold Node.required at held
  split at held
  · rename_i entries object
    split at held
    · rename_i inner here
      cases held
      rw [object, Json.required, value_of_find? here]
    · cases held
  · cases held

theorem stands_free {value : Json} : (free value).Stands number contract := by
  rintro place ⟨⟩

/-- The first node is a part of the second, at a path that is not empty. -/
def Inside (inner outer : Node) : Prop :=
  ∃ path, path ≠ [] ∧ outer.value.at? path = some inner.value ∧
    inner.place = outer.place.map fun place => ⟨place.document, place.path ++ path⟩

theorem Inside.trans {inner middle outer : Node} (first : inner.Inside middle)
    (second : middle.Inside outer) : inner.Inside outer := by
  obtain ⟨path, _, found, placed⟩ := first
  obtain ⟨above, some, found', placed'⟩ := second
  refine ⟨above ++ path, List.append_ne_nil_of_left_ne_nil some path, ?_, ?_⟩
  · rw [Json.at?_append, found']
    exact found
  · rw [placed, placed', Option.map_map]
    simp [Function.comp_def]

/-- A part of what stands in the document stands there. -/
theorem Stands.of_inside {inner : Node} (stands : node.Stands number contract)
    (inside : inner.Inside node) : inner.Stands number contract := by
  obtain ⟨path, -, found, placed⟩ := inside
  intro place here
  rw [placed] at here
  obtain ⟨parent, above, rfl⟩ := Option.map_eq_some_iff.1 here
  obtain ⟨same, parentFound⟩ := stands parent above
  refine ⟨same, ?_⟩
  rw [Json.at?_append, parentFound]
  exact found

theorem inside_child {position : Nat} {value : Json}
    (here : node.value.at? [position] = some value) : (node.child position value).Inside node :=
  ⟨[position], List.cons_ne_nil _ _, here, rfl⟩

theorem inside_find? {entries : List (String × Json)} (object : node.value = .object entries)
    {name : String} {found : Node} (member : node.find? name entries = some found) :
    found.Inside node := by
  unfold Node.find? at member
  split at member
  · rename_i position value here held
    cases member
    refine inside_child ?_
    rw [object]
    simp [Json.at?, Json.getElem?_of_find? here held]
  · cases member

/-- A member that an object has is a part of it. -/
theorem inside_member {name : String} {found : Node} (member : node.member name = .ok found) :
    found = free .null ∨ found.Inside node := by
  unfold Node.member Node.member? at member
  cases object : node.value with
  | object entries =>
      rw [object] at member
      obtain rfl := except_pure_eq_ok.1 member
      cases held : node.find? name entries with
      | none => exact .inl rfl
      | some inner => exact .inr (inside_find? object held)
  | _ => simp [object, bind, Except.bind] at member

theorem inside_required {name : String} {found : Node} (held : node.required name = .ok found) :
    found.Inside node := by
  unfold Node.required at held
  split at held
  · rename_i entries object
    split at held
    · rename_i inner here
      cases held
      exact inside_find? object here
    · cases held
  · cases held

/-- What has no children has no parts. -/
theorem Inside.elim {inner outer : Node} (inside : inner.Inside outer)
    (childless : ∀ position path, outer.value.at? (position :: path) = none) : False := by
  obtain ⟨path, some, found, -⟩ := inside
  obtain ⟨position, path, rfl⟩ := List.exists_cons_of_ne_nil some
  cases (childless position path).symm.trans found

/-- A part of a member is a part. -/
theorem Inside.of_member {inner found : Node} (inside : inner.Inside found) {name : String}
    (member : node.member name = .ok found) : inner.Inside node := by
  rcases inside_member member with rfl | within
  · exact (inside.elim fun _ _ => rfl).elim
  · exact inside.trans within

/-- A part of a node or of an empty value put in for it is a part of the node. -/
theorem Inside.of_orElse {inner : Node} {fallback : Json}
    (inside : inner.Inside (node.orElse fallback))
    (childless : ∀ position path, fallback.at? (position :: path) = none) :
    inner.Inside node := by
  unfold Node.orElse at inside
  split at inside
  · exact inside
  · exact (inside.elim childless).elim

theorem Stands.member (stands : node.Stands number contract) {name : String} {found : Node}
    (member : node.member name = .ok found) : found.Stands number contract := by
  rcases inside_member member with rfl | inside
  · exact stands_free
  · exact stands.of_inside inside

theorem Stands.orElse (stands : node.Stands number contract) {fallback : Json} :
    (node.orElse fallback).Stands number contract := by
  unfold Node.orElse
  split
  · exact stands
  · exact stands_free

theorem Stands.required (stands : node.Stands number contract) {name : String} {found : Node}
    (held : node.required name = .ok found) : found.Stands number contract :=
  stands.of_inside (inside_required held)

theorem mem_childrenFrom {child : Node} {values : List Json} {from_ : Nat}
    (member : child ∈ node.childrenFrom from_ values) :
    ∃ position value, values[position]? = some value ∧
      child = node.child (from_ + position) value := by
  induction values generalizing from_ with
  | nil => cases member
  | cons value rest ih =>
      rcases List.mem_cons.1 member with rfl | inside
      · exact ⟨0, value, rfl, rfl⟩
      · obtain ⟨position, found, here, rfl⟩ := ih inside
        exact ⟨position + 1, found, by simpa using here, by rw [Nat.add_right_comm, Nat.add_assoc]⟩

theorem mem_entriesFrom {name : String} {child : Node} {entries : List (String × Json)}
    {from_ : Nat} (member : (name, child) ∈ node.entriesFrom from_ entries) :
    ∃ position value, entries[position]? = some (name, value) ∧
      child = node.child (from_ + position) value := by
  induction entries generalizing from_ with
  | nil => cases member
  | cons entry rest ih =>
      obtain ⟨key, value⟩ := entry
      rcases List.mem_cons.1 member with same | inside
      · cases same
        exact ⟨0, value, rfl, rfl⟩
      · obtain ⟨position, found, here, rfl⟩ := ih inside
        exact ⟨position + 1, found, by simpa using here, by rw [Nat.add_right_comm, Nat.add_assoc]⟩

/-- An element that is no text is a part: the elements of objects and texts are texts. -/
theorem inside_element {children : List Node} {child : Node}
    (walked : node.elements = .ok children) (member : child ∈ children)
    (noText : ∀ text, child.value ≠ .str text) : child.Inside node := by
  unfold Node.elements at walked
  obtain ⟨values, listed, same⟩ := except_bind_eq_ok.1 walked
  obtain rfl := except_pure_eq_ok.1 same
  obtain ⟨position, value, here, rfl⟩ := mem_childrenFrom member
  rw [Nat.zero_add] at noText ⊢
  have inside : value ∈ values := List.mem_of_getElem? here
  cases kind : node.value with
  | list items =>
      rw [kind] at listed
      cases listed
      refine inside_child ?_
      rw [kind]
      simp [Json.at?, here]
  | object entries =>
      rw [kind] at listed
      cases listed
      obtain ⟨entry, -, rfl⟩ := List.mem_map.1 inside
      exact absurd rfl (noText entry.1)
  | str text =>
      rw [kind] at listed
      cases listed
      obtain ⟨c, -, rfl⟩ := List.mem_map.1 inside
      exact absurd rfl (noText _)
  | _ => rw [kind] at listed; cases listed

theorem inside_entry {entries : List (String × Node)} {name : String} {child : Node}
    (walked : node.entries = .ok entries) (member : (name, child) ∈ entries) :
    child.Inside node := by
  unfold Node.entries at walked
  obtain ⟨values, listed, same⟩ := except_bind_eq_ok.1 walked
  obtain rfl := except_pure_eq_ok.1 same
  obtain ⟨position, value, here, rfl⟩ := mem_entriesFrom member
  rw [Nat.zero_add]
  cases kind : node.value with
  | object held =>
      rw [kind] at listed
      cases listed
      refine inside_child ?_
      rw [kind]
      simp [Json.at?, here]
  | _ => rw [kind] at listed; cases listed

end Node

end TypedContract
