/-
# TypedContract.Proofs.Contract.Apart -- parts that stand apart

Two nodes stand `Apart` when neither place leads through the other.  Different children of
a node stand apart, and so does what is inside of them (`Apart.of_inside`); in a contract
the operations stand apart (`operations_apart`), and with them their parameters.

A change at one of two such places is not seen from the other (`at?_amendAt_of_diverge`).
So changes at places that stand apart do not disturb each other: two lists of changes at
the same places lead to one document exactly when they agree place by place, each on the
document before (`amendAll_eq_iff`).
-/
import TypedContract.Proofs.Contract.Change
import TypedContract.Proofs.Contract.Counterpart

namespace TypedContract

set_option autoImplicit false

/-! ## Paths that lead apart -/

/-- Neither path leads through the end of the other. -/
def Diverge (p q : List Nat) : Prop := ¬ p <+: q ∧ ¬ q <+: p

namespace Diverge

variable {p q more : List Nat} {i j : Nat}

theorem symm (diverge : Diverge p q) : Diverge q p := ⟨diverge.2, diverge.1⟩

theorem append (diverge : Diverge p q) : Diverge (p ++ more) q := by
  refine ⟨fun through => diverge.1 ((List.prefix_append p more).trans through), fun through => ?_⟩
  rcases List.prefix_or_prefix_of_prefix through (List.prefix_append p more) with back | ahead
  · exact diverge.2 back
  · exact diverge.1 ahead

theorem of_ne (apart : i ≠ j) : Diverge (p ++ [i]) (p ++ [j]) := by
  simp [Diverge, List.prefix_append_right_inj, apart, apart.symm]

theorem cons_iff : Diverge (i :: p) (i :: q) ↔ Diverge p q := by
  simp [Diverge, List.cons_prefix_cons]

end Diverge

namespace Json

variable {f : List (String × Json) → List (String × Json)} {p q : List Nat} {value : Json}

/-- A change is not seen from a place that it does not lead to or through. -/
theorem at?_amendAt_of_diverge (diverge : Diverge p q) : (amendAt f p value).at? q = value.at? q := by
  induction p generalizing q value with
  | nil => exact absurd List.nil_prefix diverge.1
  | cons i p ih =>
      cases q with
      | nil => exact absurd List.nil_prefix diverge.2
      | cons j q =>
          cases value with
          | list items =>
              rw [amendAt_cons_list, at?_cons_list, at?_cons_list, List.getElem?_modify]
              by_cases same : i = j
              · subst same
                cases items[i]? with
                | none => rfl
                | some item => simpa using ih (Diverge.cons_iff.1 diverge)
              · simp [if_neg same]
          | object entries =>
              rw [amendAt_cons_object, at?_cons_object, at?_cons_object, List.getElem?_modify]
              by_cases same : i = j
              · subst same
                cases entries[i]? with
                | none => rfl
                | some entry => simpa using ih (Diverge.cons_iff.1 diverge)
              · simp [if_neg same]
          | _ => rfl

/-! ## Changes at places that lead apart -/

section

variable {α : Type} (path : α → List Nat)

/-- Changes objects at the paths of some items, one after the other. -/
def amendAll (change : α → List (String × Json) → List (String × Json)) (items : List α)
    (value : Json) : Json :=
  items.foldl (fun value item => amendAt (change item) (path item) value) value

variable {path} {change other : α → List (String × Json) → List (String × Json)} {items : List α}

theorem at?_amendAll (diverge : ∀ item ∈ items, Diverge (path item) q) :
    (amendAll path change items value).at? q = value.at? q := by
  induction items generalizing value with
  | nil => rfl
  | cons item items ih =>
      obtain ⟨first, rest⟩ := List.forall_mem_cons.1 diverge
      exact (ih rest).trans (at?_amendAt_of_diverge first)

/-- Changes at places that lead apart give the same document exactly when each does the
same to what stood at its place. -/
theorem amendAll_eq_iff (apart : items.Pairwise fun item item' => Diverge (path item) (path item')) :
    amendAll path change items value = amendAll path other items value ↔
      ∀ item ∈ items, ∀ entries, value.at? (path item) = some (.object entries) →
        change item entries = other item entries := by
  induction items generalizing value with
  | nil => exact ⟨fun _ => nofun, fun _ => rfl⟩
  | cons item items ih =>
      obtain ⟨first, rest⟩ := List.pairwise_cons.1 apart
      have step (same : ∀ entries, value.at? (path item) = some (.object entries) →
          change item entries = other item entries) :
          amendAll path change (item :: items) value = amendAll path other (item :: items) value ↔
            ∀ item ∈ items, ∀ entries, value.at? (path item) = some (.object entries) →
              change item entries = other item entries := by
        have equal : amendAt (change item) (path item) value = amendAt (other item) (path item) value :=
          amendAt_congr same
        change amendAll path change items (amendAt (change item) (path item) value) =
          amendAll path other items (amendAt (other item) (path item) value) ↔ _
        rw [equal, ih rest]
        refine forall₂_congr fun item' member => ?_
        rw [at?_amendAt_of_diverge (first item' member)]
      constructor
      · intro equal
        have same (entries : List (String × Json))
            (here : value.at? (path item) = some (.object entries)) :
            change item entries = other item entries := by
          -- The later changes do not lead here, so what they leave tells what was done first.
          have seen := congrArg (at? (path item)) equal
          have away : ∀ item' ∈ items, Diverge (path item') (path item) :=
            fun item' member => (first item' member).symm
          have left : at? (path item) (amendAll path change (item :: items) value) =
              some (.object (change item entries)) := (at?_amendAll away).trans (at?_amendAt here)
          have right : at? (path item) (amendAll path other (item :: items) value) =
              some (.object (other item entries)) := (at?_amendAll away).trans (at?_amendAt here)
          have both := left.symm.trans (seen.trans right)
          injection both with both
          injection both
        exact List.forall_mem_cons.2 ⟨same, (step same).1 equal⟩
      · intro same
        obtain ⟨own, others⟩ := List.forall_mem_cons.1 same
        exact (step own).2 others

end

end Json

/-! ## Nodes that stand apart -/

namespace Node

/-- The places of the nodes, if they have places, lead apart. -/
def Apart (a b : Node) : Prop :=
  ∀ p q, a.place = some p → b.place = some q → Diverge p.path q.path

variable {a b node : Node}

theorem Apart.symm (apart : Apart a b) : Apart b a := fun p q here there => (apart q p there here).symm

/-- What is inside of nodes that stand apart stands apart. -/
theorem Apart.of_inside {inner : Node} (apart : Apart a b) (inside : inner.Inside a) :
    Apart inner b := by
  obtain ⟨path, -, -, placed⟩ := inside
  intro p q here there
  rw [placed] at here
  obtain ⟨above, standing, rfl⟩ := Option.map_eq_some_iff.1 here
  exact (apart above q standing there).append

theorem apart_of_free {value : Json} : Apart (free value) b := fun _ _ here => nomatch here

theorem apart_child {i j : Nat} {value value' : Json} (different : i ≠ j) :
    Apart (node.child i value) (node.child j value') := by
  intro p q here there
  obtain ⟨above, standing, rfl⟩ := Option.map_eq_some_iff.1 here
  obtain ⟨above', standing', rfl⟩ := Option.map_eq_some_iff.1 there
  obtain rfl := Option.some.inj (standing.symm.trans standing')
  exact .of_ne different

theorem childrenFrom_apart {values : List Json} {position : Nat} :
    (node.childrenFrom position values).Pairwise Apart := by
  induction values generalizing position with
  | nil => exact .nil
  | cons value rest ih =>
      refine .cons (fun child member => ?_) ih
      obtain ⟨further, value', -, rfl⟩ := mem_childrenFrom member
      exact apart_child (by omega)

theorem entriesFrom_apart {entries : List (String × Json)} {position : Nat} :
    (node.entriesFrom position entries).Pairwise fun entry entry' => Apart entry.2 entry'.2 := by
  induction entries generalizing position with
  | nil => exact .nil
  | cons entry rest ih =>
      refine .cons (fun child member => ?_) ih
      obtain ⟨further, value', -, standing⟩ := mem_entriesFrom member
      rw [standing]
      exact apart_child (by omega)

theorem elements_apart {children : List Node} (walked : node.elements = .ok children) :
    children.Pairwise Apart := by
  obtain ⟨values, -, same⟩ := except_bind_eq_ok.1 walked
  obtain rfl := except_pure_eq_ok.1 same
  exact childrenFrom_apart

theorem entries_apart {entries : List (String × Node)} (walked : node.entries = .ok entries) :
    entries.Pairwise fun entry entry' => Apart entry.2 entry'.2 := by
  obtain ⟨values, -, same⟩ := except_bind_eq_ok.1 walked
  obtain rfl := except_pure_eq_ok.1 same
  exact entriesFrom_apart

/-- Members of different names stand apart. -/
theorem member_apart {name name' : String} (different : name ≠ name')
    (held : node.member name = .ok a) (held' : node.member name' = .ok b) : Apart a b := by
  unfold member member? at held held'
  cases object : node.value with
  | object entries =>
      rw [object] at held held'
      obtain rfl := except_pure_eq_ok.1 held
      obtain rfl := except_pure_eq_ok.1 held'
      unfold find?
      split
      · next position value here found =>
          split
          · next position' value' here' found' =>
              refine apart_child fun same => different ?_
              subst same
              have one := Json.getElem?_of_find? here found
              have two := Json.getElem?_of_find? here' found'
              rw [one] at two
              injection two with two
              injection two
          · exact apart_of_free.symm
      · exact apart_of_free
  | _ => rw [object] at held; cases held

end Node

namespace Contract

/-! ## Operations stand apart -/

theorem exists_member_of_mem_operationsOf {path : String} {item shared : Node} {names : List String}
    {found : List Operation} (listed : operationsOf path item shared names = .ok found)
    {operation : Operation} (member : operation ∈ found) :
    ∃ name ∈ names, item.member name = .ok operation.node ∧
      ∃ entries, operation.node.value = .object entries := by
  induction names generalizing found with
  | nil => cases listed; cases member
  | cons name rest ih =>
      obtain ⟨node, held, further⟩ := except_bind_eq_ok.1 listed
      obtain ⟨more, later, same⟩ := except_bind_eq_ok.1 further
      split at same
      · next entries object =>
          obtain rfl := except_pure_eq_ok.1 same
          rcases List.mem_cons.1 member with rfl | inside
          · exact ⟨name, List.mem_cons_self, held, entries, object⟩
          · obtain ⟨name', known, own⟩ := ih later inside
            exact ⟨name', List.mem_cons_of_mem _ known, own⟩
      · obtain rfl := except_pure_eq_ok.1 same
        obtain ⟨name', known, own⟩ := ih later member
        exact ⟨name', List.mem_cons_of_mem _ known, own⟩

theorem operationsOf_apart {path : String} {item shared : Node} {names : List String}
    {found : List Operation} (distinct : names.Nodup)
    (listed : operationsOf path item shared names = .ok found) :
    found.Pairwise fun operation operation' => operation.node.Apart operation'.node := by
  induction names generalizing found with
  | nil => cases listed; exact .nil
  | cons name rest ih =>
      obtain ⟨new, distinct⟩ := List.nodup_cons.1 distinct
      obtain ⟨node, held, further⟩ := except_bind_eq_ok.1 listed
      obtain ⟨more, later, same⟩ := except_bind_eq_ok.1 further
      split at same
      · obtain rfl := except_pure_eq_ok.1 same
        refine .cons (fun operation member => ?_) (ih distinct later)
        obtain ⟨name', known, held', -⟩ := exists_member_of_mem_operationsOf later member
        have different : name ≠ name' := fun equal => new (equal ▸ known)
        exact Node.member_apart different held held'
      · obtain rfl := except_pure_eq_ok.1 same
        exact ih distinct later

theorem inside_of_mem_operationsOf {path : String} {item shared : Node} {names : List String}
    {found : List Operation} (listed : operationsOf path item shared names = .ok found)
    {operation : Operation} (member : operation ∈ found) : operation.node.Inside item := by
  obtain ⟨name, -, held, entries, object⟩ := exists_member_of_mem_operationsOf listed member
  rcases Node.inside_member held with missing | inside
  · rw [missing] at object
    cases object
  · exact inside

/-- The operations of the first path item come first; it may have none. -/
theorem exists_own_of_operationsOfItems {path : String} {item : Node} {rest : List (String × Node)}
    {found : List Operation} (listed : operationsOfItems ((path, item) :: rest) = .ok found) :
    ∃ own more, found = own ++ more ∧ operationsOfItems rest = .ok more ∧
      ∃ shared names, names.Nodup ∧ operationsOf path item shared names = .ok own := by
  unfold operationsOfItems at listed
  split at listed
  · obtain ⟨shared, -, further⟩ := except_bind_eq_ok.1 listed
    obtain ⟨own, here, further⟩ := except_bind_eq_ok.1 further
    obtain ⟨more, later, same⟩ := except_bind_eq_ok.1 further
    exact ⟨own, more, (except_pure_eq_ok.1 same).symm, later, _, methods, by decide, here⟩
  · exact ⟨[], found, rfl, listed, item, [], .nil, rfl⟩

theorem exists_item_of_mem_operationsOfItems {items : List (String × Node)} {found : List Operation}
    (listed : operationsOfItems items = .ok found) {operation : Operation} (member : operation ∈ found) :
    ∃ entry ∈ items, operation.node.Inside entry.2 := by
  induction items generalizing found with
  | nil => cases listed; cases member
  | cons entry rest ih =>
      obtain ⟨own, more, rfl, later, shared, names, -, here⟩ := exists_own_of_operationsOfItems listed
      rcases List.mem_append.1 member with inside | inside
      · exact ⟨entry, List.mem_cons_self, inside_of_mem_operationsOf here inside⟩
      · obtain ⟨item, known, within⟩ := ih later inside
        exact ⟨item, List.mem_cons_of_mem _ known, within⟩

theorem operationsOfItems_apart {items : List (String × Node)} {found : List Operation}
    (apart : items.Pairwise fun entry entry' => entry.2.Apart entry'.2)
    (listed : operationsOfItems items = .ok found) :
    found.Pairwise fun operation operation' => operation.node.Apart operation'.node := by
  induction items generalizing found with
  | nil => cases listed; exact .nil
  | cons entry rest ih =>
      obtain ⟨away, others⟩ := List.pairwise_cons.1 apart
      obtain ⟨own, more, rfl, later, shared, names, distinct, here⟩ :=
        exists_own_of_operationsOfItems listed
      refine List.pairwise_append.2 ⟨operationsOf_apart distinct here, ih others later, ?_⟩
      intro operation member operation' member'
      obtain ⟨item, known, within⟩ := exists_item_of_mem_operationsOfItems later member'
      have outer := (away item known).of_inside (inside_of_mem_operationsOf here member)
      exact (outer.symm.of_inside within).symm

/-- The operations of a document stand apart. -/
theorem operations_apart {document : Node} {found : List Operation}
    (listed : operations document = .ok found) :
    found.Pairwise fun operation operation' => operation.node.Apart operation'.node := by
  obtain ⟨paths, -, further⟩ := except_bind_eq_ok.1 listed
  obtain ⟨items, walked, listed⟩ := except_bind_eq_ok.1 further
  exact operationsOfItems_apart (Node.entries_apart walked) listed

/-- An operation is a part of the document. -/
theorem inside_of_mem_operations {document : Node} {found : List Operation}
    (listed : operations document = .ok found) {operation : Operation} (member : operation ∈ found) :
    operation.node.Inside document := by
  obtain ⟨paths, held, further⟩ := except_bind_eq_ok.1 listed
  obtain ⟨items, walked, listed⟩ := except_bind_eq_ok.1 further
  obtain ⟨entry, known, within⟩ := exists_item_of_mem_operationsOfItems listed member
  obtain ⟨inner, found, same⟩ := except_bind_eq_ok.1 held
  obtain rfl := except_pure_eq_ok.1 same
  have outer := within.trans (Node.inside_entry walked known)
  exact (outer.of_orElse fun _ _ => rfl).of_member found

end Contract

end TypedContract
