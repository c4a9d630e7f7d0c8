/-
# TypedContract.Proofs.Contract.Counterpart -- reading an enriched contract

A node of an enriched contract is the `Counterpart` of the node that stands at its place
in the contract before: their values differ only by what enrichment may write.  What a
reader asks of a node agrees with what it is told by the counterpart, as long as it asks
for no example and no description: the answers are counterparts again, or the same fault.
A node of a quiet part is its own counterpart (`Counterpart.eq_of_quiet`).

A reference that leads to a component of its kind leads to counterparts in both documents
(`Counterpart.resolve`).
-/
import TypedContract.Proofs.Agreeing
import TypedContract.Proofs.Contract.Enriched

namespace TypedContract

set_option autoImplicit false

open Contract (Part Shared)

namespace Node

/-- The new node stands where the old one stands in the contract, with its value enriched. -/
structure Counterpart (offer : Offer) (contract : Json) (part : Part) (old new : Node) : Prop where
  place : new.place = old.place
  /-- Only objects and lists are looked up again by their place. -/
  stands : ∀ place, old.place = some place → old.value.isContainer = true →
    contract.reach .contract place.path = some (part, old.value)
  /-- What is put in for a missing value is empty. -/
  absent : old.place = none → old.value.isContainer = true → old.value.truthy = false
  value : old.value.Enriched offer part new.value

namespace Counterpart

variable {offer : Offer} {contract : Json} {part : Part} {old new : Node} {name : String}

theorem free (part : Part) {value : Json} (empty : value.truthy = false) :
    Counterpart offer contract part (.free value) (.free value) :=
  ⟨rfl, by rintro _ ⟨⟩, fun _ _ => empty, .refl part value⟩

theorem root {document : Json} (enriched : contract.Enriched offer .contract document) :
    Counterpart offer contract .contract (.root 0 contract) (.root 0 document) :=
  ⟨rfl, by rintro _ ⟨⟩ _; rfl, nofun, enriched⟩

/-- Nothing changes in a quiet part. -/
theorem eq_of_quiet (counterpart : Counterpart offer contract part old new)
    (quiet : part.quiet = true) : new = old := by
  obtain ⟨place, -, -, value⟩ := counterpart
  cases old
  cases new
  cases place
  cases value.eq_of_quiet quiet
  rfl

theorem isNull (counterpart : Counterpart offer contract part old new) :
    new.value.isNull = old.value.isNull := counterpart.value.isNull

theorem truthy (counterpart : Counterpart offer contract part old new)
    (plain : part.plain = true) : new.value.truthy = old.value.truthy :=
  counterpart.value.truthy plain

theorem orElse (counterpart : Counterpart offer contract part old new)
    (plain : part.plain = true) {fallback : Json} (empty : fallback.truthy = false) :
    Counterpart offer contract part (old.orElse fallback) (new.orElse fallback) := by
  unfold Node.orElse
  rw [counterpart.truthy plain]
  split
  · exact counterpart
  · exact free part empty

/-! ## Children -/

theorem childAt (counterpart : Counterpart offer contract part old new) {position : Nat}
    {value value' : Json} {q : Part} (own : value.Enriched offer q value')
    (inside : value.isContainer = true → old.value.reach part [position] = some (q, value)) :
    Counterpart offer contract q (old.child position value) (new.child position value') := by
  have outer (container : value.isContainer = true) :
      old.value.isContainer = true ∧ old.value.truthy = true := by
    have reached := inside container
    cases kind : old.value with
    | list items =>
        rw [kind] at reached
        cases items with
        | nil => cases reached
        | cons item rest => exact ⟨rfl, rfl⟩
    | object entries =>
        rw [kind] at reached
        cases entries with
        | nil => cases reached
        | cons entry rest => exact ⟨rfl, rfl⟩
    | _ => rw [kind] at reached; cases reached
  refine ⟨?_, fun place here container => ?_, fun here container => ?_, own⟩
  · rw [Node.child, Node.child, counterpart.place]
  · obtain ⟨above, placed, rfl⟩ := Option.map_eq_some_iff.1 here
    rw [Json.reach_append, counterpart.stands above placed (outer container).1]
    exact inside container
  · have nowhere : old.place = none := Option.map_eq_none_iff.1 here
    have empty := counterpart.absent nowhere (outer container).1
    cases empty.symm.trans (outer container).2

theorem find? {entries entries' : List (String × Json)}
    (counterpart : Counterpart offer contract part old new)
    (object : old.value = .object entries) (object' : new.value = .object entries')
    (unwritten : part.writes name = false) :
    Option.Rel (Counterpart offer contract (part.child name))
      (old.find? name entries) (new.find? name entries') := by
  have enriched : Json.EnrichedEntries offer part entries entries entries' := by
    have whole := counterpart.value
    rw [object, object'] at whole
    obtain ⟨held, same, own⟩ := Json.enriched_object.1 whole
    cases same
    exact own
  have positions := enriched.position? unwritten
  have values := enriched.find? unwritten
  unfold Node.find?
  rw [positions]
  cases found : Json.find? name entries with
  | none =>
      rw [Json.position?_eq_none found]
      exact .none
  | some value =>
      rw [found] at values
      cases found' : Json.find? name entries' with
      | none => rw [found'] at values; cases values
      | some value' =>
          rw [found'] at values
          obtain ⟨position, here⟩ := Json.exists_position? found
          rw [here]
          cases values with
          | some own =>
              refine .some (counterpart.childAt own fun _ => ?_)
              rw [object, Json.reach, Json.getElem?_of_find? here found]
              exact if_neg (Bool.not_eq_true _ ▸ unwritten)

/-! ## Members -/

theorem member? (counterpart : Counterpart offer contract part old new)
    (unwritten : part.writes name = false) :
    Agree (Option.Rel (Counterpart offer contract (part.child name)))
      (old.member? name) (new.member? name) := by
  unfold Node.member?
  obtain ⟨entries, entries', object, object', -⟩ | ⟨items, items', list, list', -⟩ | ⟨leaf, same⟩ :=
    counterpart.value.cases
  · rw [object, object']
    exact .ok (counterpart.find? object object' unwritten)
  · rw [list, list']
    exact .error
  · rw [same]
    cases kind : old.value with
    | object entries => rw [kind] at leaf; cases leaf
    | _ => exact .error

theorem member (counterpart : Counterpart offer contract part old new)
    (unwritten : part.writes name = false) :
    Agree (Counterpart offer contract (part.child name)) (old.member name) (new.member name) := by
  refine (counterpart.member? unwritten).bind fun found found' related => .ok ?_
  cases related with
  | none => exact free _ rfl
  | some own => exact own

theorem required (counterpart : Counterpart offer contract part old new)
    (unwritten : part.writes name = false) :
    Agree (Counterpart offer contract (part.child name)) (old.required name) (new.required name) := by
  unfold Node.required
  obtain ⟨entries, entries', object, object', -⟩ | ⟨items, items', list, list', -⟩ | ⟨leaf, same⟩ :=
    counterpart.value.cases
  · rw [object, object']
    have related := counterpart.find? object object' unwritten
    simp only
    generalize old.find? name entries = found, new.find? name entries' = found' at related
    cases related with
    | some own => exact .ok own
    | none => exact .error
  · rw [list, list']
    exact .error
  · rw [same]
    cases kind : old.value with
    | object entries => rw [kind] at leaf; cases leaf
    | _ => exact .error

/-! ## Elements and entries -/

theorem childrenFrom_leaves (counterpart : Counterpart offer contract part old new)
    {values : List Json} (leaves : ∀ value ∈ values, value.isContainer = false) {q : Part}
    {position : Nat} :
    List.Forall₂ (Counterpart offer contract q)
      (old.childrenFrom position values) (new.childrenFrom position values) := by
  induction values generalizing position with
  | nil => exact .nil
  | cons value rest ih =>
      obtain ⟨leaf, more⟩ := List.forall_mem_cons.1 leaves
      refine .cons (counterpart.childAt (.refl q value) fun container => ?_) (ih more)
      cases leaf.symm.trans container

theorem childrenFrom_items (counterpart : Counterpart offer contract part old new)
    {items items' : List Json} (before : List Json) (list : old.value = .list (before ++ items))
    (own : Json.EnrichedItems offer part.element items items') :
    List.Forall₂ (Counterpart offer contract part.element)
      (old.childrenFrom before.length items) (new.childrenFrom before.length items') := by
  induction items generalizing items' before with
  | nil =>
      rw [Json.EnrichedItems] at own
      rw [own]
      exact .nil
  | cons item rest ih =>
      cases items' with
      | nil => simp [Json.EnrichedItems] at own
      | cons item' rest' =>
          rw [Json.EnrichedItems] at own
          refine .cons (counterpart.childAt own.1 fun _ => ?_) ?_
          · rw [list, Json.reach, List.getElem?_append_right (Nat.le_refl _), Nat.sub_self]
            rfl
          · have further := ih (before ++ [item]) (by rw [list, List.append_assoc]; rfl) own.2
            rwa [List.length_append] at further

/-- The elements of a plain part are counterparts one by one. -/
theorem elements (counterpart : Counterpart offer contract part old new)
    (plain : part.plain = true) :
    Agree (List.Forall₂ (Counterpart offer contract part.element)) old.elements new.elements := by
  unfold Node.elements
  obtain ⟨entries, entries', object, object', own⟩ | ⟨items, items', list, list', own⟩ | ⟨leaf, same⟩ :=
    counterpart.value.cases
  · rw [object, object']
    refine .ok ?_
    have keys := own.keys plain
    have texts : (entries'.map fun entry => Json.str entry.1) = entries.map fun entry => .str entry.1 := by
      simpa only [List.map_map, Function.comp_def] using congrArg (List.map Json.str) keys
    rw [texts]
    refine counterpart.childrenFrom_leaves fun value member => ?_
    obtain ⟨entry, -, rfl⟩ := List.mem_map.1 member
    rfl
  · rw [list, list']
    exact .ok (counterpart.childrenFrom_items [] list own)
  · rw [same]
    cases kind : old.value with
    | list items => rw [kind] at leaf; cases leaf
    | object entries => rw [kind] at leaf; cases leaf
    | str text =>
        refine .ok (counterpart.childrenFrom_leaves fun value member => ?_)
        obtain ⟨c, -, rfl⟩ := List.mem_map.1 member
        rfl
    | _ => exact .error

theorem entriesFrom (counterpart : Counterpart offer contract part old new)
    (plain : part.plain = true) {whole entries entries' : List (String × Json)}
    (before : List (String × Json)) (object : old.value = .object (before ++ entries))
    (own : Json.EnrichedEntries offer part whole entries entries') :
    List.Forall₂ (fun entry entry' => entry'.1 = entry.1 ∧
        Counterpart offer contract (part.child entry.1) entry.2 entry'.2)
      (old.entriesFrom before.length entries) (new.entriesFrom before.length entries') := by
  induction entries generalizing entries' before with
  | nil =>
      have keys := own.keys plain
      cases entries' with
      | nil => exact .nil
      | cons entry rest => cases keys
  | cons entry rest ih =>
      obtain ⟨key, value⟩ := entry
      obtain ⟨value', rest', rfl, here, more⟩ := own.exists_cons
      have unwritten := Part.writes_of_plain plain key
      refine .cons ⟨rfl, ?_⟩ ?_
      · refine counterpart.childAt (.of_unwritten here unwritten) fun _ => ?_
        rw [object, Json.reach, List.getElem?_append_right (Nat.le_refl _), Nat.sub_self]
        exact if_neg (Bool.not_eq_true _ ▸ unwritten)
      · have further := ih (before ++ [(key, value)])
          (by rw [object, List.append_assoc]; rfl) more
        rwa [List.length_append] at further

/-- The entries of a plain part have the same names and are counterparts one by one. -/
theorem entries (counterpart : Counterpart offer contract part old new)
    (plain : part.plain = true) :
    Agree (List.Forall₂ fun entry entry' => entry'.1 = entry.1 ∧
      Counterpart offer contract (part.child entry.1) entry.2 entry'.2) old.entries new.entries := by
  unfold Node.entries
  obtain ⟨entries, entries', object, object', own⟩ | ⟨items, items', list, list', -⟩ | ⟨leaf, same⟩ :=
    counterpart.value.cases
  · rw [object, object']
    exact .ok (counterpart.entriesFrom plain [] object own)
  · rw [list, list']
    exact .error
  · rw [same]
    cases kind : old.value with
    | object entries => rw [kind] at leaf; cases leaf
    | _ => exact .error

/-! ## Values -/

/-- A name is looked for in the values with the same result. -/
theorem holds (counterpart : Counterpart offer contract part old new)
    (unwritten : part.writes name = false) : new.value.holds name = old.value.holds name := by
  unfold Json.holds
  obtain ⟨entries, entries', object, object', own⟩ | ⟨items, items', list, list', own⟩ | ⟨leaf, same⟩ :=
    counterpart.value.cases
  · rw [object, object']
    have found := own.find? unwritten
    simp only
    generalize Json.find? name entries = held, Json.find? name entries' = held' at found
    cases found <;> rfl
  · rw [list, list']
    simp only
    rw [own.any_same_text]
  · rw [same]

section

variable (counterpart : Counterpart offer contract part old new)
  (unwritten : part.writes name = false) (quiet : (part.child name).quiet = true)

include counterpart unwritten quiet

/-- What stands under a name with a quiet part is the same. -/
theorem value_member? : new.value.member? name = old.value.member? name := by
  obtain ⟨entries, entries', object, object', own⟩ | ⟨items, items', list, list', -⟩ | ⟨leaf, same⟩ :=
    counterpart.value.cases
  · rw [object, object']
    exact congrArg Except.ok (own.find?_of_quiet unwritten quiet)
  · rw [list, list']
    rfl
  · rw [same]

theorem value_member : new.value.member name = old.value.member name := by
  unfold Json.member
  rw [counterpart.value_member? unwritten quiet]

theorem value_required : new.value.required name = old.value.required name := by
  obtain ⟨entries, entries', object, object', own⟩ | ⟨items, items', list, list', -⟩ | ⟨leaf, same⟩ :=
    counterpart.value.cases
  · rw [object, object']
    simp only [Json.required, own.find?_of_quiet unwritten quiet]
  · rw [list, list']
    rfl
  · rw [same]

end

/-- A plain part has as many elements as before. -/
theorem value_size (counterpart : Counterpart offer contract part old new)
    (plain : part.plain = true) : new.value.size = old.value.size := by
  obtain ⟨entries, entries', object, object', own⟩ | ⟨items, items', list, list', own⟩ | ⟨leaf, same⟩ :=
    counterpart.value.cases
  · rw [object, object']
    have keys := congrArg List.length (own.keys plain)
    rw [List.length_map, List.length_map] at keys
    exact congrArg Except.ok (by rw [List.length_map, List.length_map, keys])
  · rw [list, list']
    exact congrArg Except.ok own.length
  · rw [same]

/-! ## References -/

/-- A reference of a part that is assigned a kind leads to a component of that kind. -/
theorem refersTo {kindOf : Part → Option Shared} {kind : Shared} {text : String}
    (counterpart : Counterpart offer contract part old new)
    (refers : contract.refersInto kindOf = true) (assigned : kindOf part = some kind)
    (reference : old.value.required "$ref" = .ok (.str text)) :
    Pointer.refersTo kind text = true := by
  cases object : old.value with
  | object entries =>
      rw [object, Json.required] at reference
      cases found : Json.find? "$ref" entries with
      | none => rw [found] at reference; cases reference
      | some ref =>
          rw [found] at reference
          cases reference
          have container : old.value.isContainer = true := by rw [object]; rfl
          have counts : old.value.truthy = true := by
            rw [object]
            cases entries with
            | nil => cases found
            | cons entry rest => rfl
          have somewhere : old.place ≠ none := fun nowhere => by
            cases (counterpart.absent nowhere container).symm.trans counts
          obtain ⟨place, placed⟩ := Option.ne_none_iff_exists'.1 somewhere
          have checked := Json.everyPart_reach refers (counterpart.stands place placed container)
          rw [assigned, Option.all_some, object, Json.refersTo, found] at checked
          exact checked
  | _ => rw [object] at reference; cases reference

/-- A key that is neither an example nor a description leads on from counterparts to
counterparts. -/
theorem follow?_cons {related : Node → Node → Prop} {names : List String}
    (counterpart : Counterpart offer contract part old new)
    (unwritten : part.writes name = false)
    (rest : ∀ {inner inner' : Node}, Counterpart offer contract (part.child name) inner inner' →
      Option.Rel related (Pointer.follow? inner names) (Pointer.follow? inner' names)) :
    Option.Rel related (Pointer.follow? old (name :: names)) (Pointer.follow? new (name :: names)) := by
  unfold Pointer.follow?
  obtain ⟨entries, entries', object, object', -⟩ | ⟨items, items', list, list', -⟩ | ⟨leaf, same⟩ :=
    counterpart.value.cases
  · rw [object, object']
    have held := counterpart.find? object object' unwritten
    simp only
    generalize old.find? name entries = found, new.find? name entries' = found' at held
    cases held with
    | some own => exact rest own
    | none => exact .none
  · rw [list, list']
    exact .none
  · rw [same]
    cases kind : old.value with
    | object entries => rw [kind] at leaf; cases leaf
    | _ => exact .none

/-- A reference to a component of a kind leads to counterparts. -/
theorem resolve (counterpart : Counterpart offer contract .contract old new)
    {kind : Shared} {text : String} (refers : Pointer.refersTo kind text = true) :
    Agree (Counterpart offer contract (.entry kind))
      (Pointer.resolve old (.str text)) (Pointer.resolve new (.str text)) := by
  have related : Option.Rel (Counterpart offer contract (.entry kind))
      ((Pointer.keys? text).bind (Pointer.follow? old))
      ((Pointer.keys? text).bind (Pointer.follow? new)) := by
    cases found : Pointer.keys? text with
    | none => exact .none
    | some keys =>
        obtain ⟨name, rfl⟩ := Pointer.keys_of_refersTo refers found
        refine counterpart.follow?_cons rfl fun components => ?_
        refine components.follow?_cons rfl fun shelf => ?_
        have shelved : Part.components.child kind.key = .shelf kind := by cases kind <;> rfl
        rw [show (Part.contract.child "components").child kind.key = .shelf kind from shelved] at shelf
        exact shelf.follow?_cons (Part.writes_of_plain (by cases kind <;> rfl) _) fun entry => .some entry
  unfold Pointer.resolve
  simp only
  generalize (Pointer.keys? text).bind (Pointer.follow? old) = found,
    (Pointer.keys? text).bind (Pointer.follow? new) = found' at related
  cases related with
  | some own => exact .ok own
  | none => exact .error

end Counterpart

end Node

namespace Contract

/-! ## The parts of a contract -/

variable {offer : Offer} {contract : Json} {old new : Node}

theorem agree_paths (counterpart : Node.Counterpart offer contract .contract old new) :
    Agree (Node.Counterpart offer contract .paths) (paths old) (paths new) :=
  (counterpart.member rfl).bind fun _ _ own => .ok (own.orElse rfl rfl)

theorem agree_schemas (counterpart : Node.Counterpart offer contract .contract old new) :
    Agree (Node.Counterpart offer contract .schemas) (schemas old) (schemas new) :=
  (counterpart.member rfl).bind fun _ _ components =>
    ((components.orElse rfl rfl).member rfl).bind fun _ _ own => .ok (own.orElse rfl rfl)

/-- The component schemas have the same names and are counterparts. -/
theorem agree_schemaEntries (counterpart : Node.Counterpart offer contract .contract old new) :
    Agree (List.Forall₂ fun entry entry' : String × Node =>
        entry'.1 = entry.1 ∧ Node.Counterpart offer contract .schema entry.2 entry'.2)
      (do (← schemas old).entries) (do (← schemas new).entries) :=
  (agree_schemas counterpart).bind fun _ _ own => own.entries rfl

/-- The parameters of an operation are counterparts one by one. -/
theorem agree_parameters (counterpart : Node.Counterpart offer contract .operation old new) :
    Agree (List.Forall₂ (Node.Counterpart offer contract (.use .parameter)))
      (do ((← old.member "parameters").orElse (.list [])).elements)
      (do ((← new.member "parameters").orElse (.list [])).elements) :=
  (counterpart.member rfl).bind fun _ _ own => (own.orElse rfl rfl).elements rfl

/-- The operations have the same path and method and are counterparts. -/
structure Operation.Counterpart (offer : Offer) (contract : Json) (old new : Operation) : Prop where
  path : new.path = old.path
  method : new.method = old.method
  node : Node.Counterpart offer contract .operation old.node new.node
  shared : Node.Counterpart offer contract .itemParameters old.shared new.shared

/-- Under a method stands an operation. -/
theorem child_of_mem_methods {method : String} (known : method ∈ methods) :
    Part.item.child method = .operation := by
  simp only [methods, List.mem_cons, List.not_mem_nil, or_false] at known
  rcases known with rfl | rfl | rfl | rfl | rfl | rfl | rfl | rfl <;> rfl

theorem agree_operationsOf {path : String} {item item' shared shared' : Node}
    (items : Node.Counterpart offer contract .item item item')
    (shareds : Node.Counterpart offer contract .itemParameters shared shared')
    {names : List String} (known : ∀ name ∈ names, name ∈ methods) :
    Agree (List.Forall₂ (Operation.Counterpart offer contract))
      (operationsOf path item shared names) (operationsOf path item' shared' names) := by
  induction names with
  | nil => exact .ok .nil
  | cons method rest ih =>
      obtain ⟨here, others⟩ := List.forall_mem_cons.1 known
      refine (items.member rfl).bind fun node node' own => ?_
      rw [child_of_mem_methods here] at own
      refine (ih others).bind fun more more' related => ?_
      obtain ⟨entries, entries', object, object', -⟩ | ⟨list, list', rows, rows', -⟩ | ⟨leaf, same⟩ :=
        own.value.cases
      · rw [object, object']
        exact .ok (.cons ⟨rfl, rfl, own, shareds⟩ related)
      · rw [rows, rows']
        exact .ok related
      · rw [same]
        cases kind : node.value with
        | object entries => rw [kind] at leaf; cases leaf
        | _ => exact .ok related

theorem agree_operationsOfItems {items items' : List (String × Node)}
    (related : List.Forall₂ (fun entry entry' => entry'.1 = entry.1 ∧
      Node.Counterpart offer contract .item entry.2 entry'.2) items items') :
    Agree (List.Forall₂ (Operation.Counterpart offer contract))
      (operationsOfItems items) (operationsOfItems items') := by
  induction related with
  | nil => exact .ok .nil
  | @cons entry entry' rest rest' head tail ih =>
      obtain ⟨path, item⟩ := entry
      obtain ⟨path', item'⟩ := entry'
      obtain ⟨rfl, own⟩ := head
      unfold operationsOfItems
      obtain ⟨entries, entries', object, object', -⟩ | ⟨list, list', rows, rows', -⟩ | ⟨leaf, same⟩ :=
        own.value.cases
      · simp only at object object' ⊢
        rw [object, object']
        refine (own.member rfl).bind fun _ _ shared => ?_
        refine (agree_operationsOf own (shared.orElse rfl rfl) fun _ known => known).bind
          fun _ _ first => ih.bind fun _ _ more => .ok (List.rel_append first more)
      · simp only at rows rows' ⊢
        rw [rows, rows']
        exact ih
      · simp only at leaf same ⊢
        rw [same]
        cases kind : item.value with
        | object entries => rw [kind] at leaf; cases leaf
        | _ => exact ih

theorem agree_operations (counterpart : Node.Counterpart offer contract .contract old new) :
    Agree (List.Forall₂ (Operation.Counterpart offer contract)) (operations old) (operations new) :=
  (agree_paths counterpart).bind fun _ _ own =>
    (own.entries rfl).bind fun _ _ => agree_operationsOfItems

end Contract

end TypedContract
