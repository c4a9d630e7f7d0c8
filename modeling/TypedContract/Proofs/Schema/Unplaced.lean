/-
# TypedContract.Proofs.Schema.Unplaced -- schemas wherever they stand

A schema remembers the place that it was parsed from.  Two documents that list their
components in different orders have the same schemas at different places:
`Schema.unplaced` forgets them, and parsing a value that stands nowhere gives the
unplaced schema (`parse_unplaced`).
-/
import TypedContract.Schema.Basic
import TypedContract.Proofs.Steps

namespace TypedContract

set_option autoImplicit false

namespace Node

/-- The value of the node, standing nowhere. -/
def unplaced (node : Node) : Node := .free node.value

variable {node : Node} {name : String}

@[simp] theorem value_unplaced : node.unplaced.value = node.value := rfl

@[simp] theorem unplaced_free {value : Json} : (free value).unplaced = free value := rfl

@[simp] theorem unplaced_child {position : Nat} {value : Json} :
    (node.child position value).unplaced = free value := rfl

theorem find?_unplaced {entries : List (String × Json)} :
    node.unplaced.find? name entries = (node.find? name entries).map unplaced := by
  unfold find?
  split
  · rfl
  · rfl

theorem member_unplaced : node.unplaced.member name = unplaced <$> node.member name := by
  unfold member member?
  rw [value_unplaced]
  cases node.value with
  | object entries =>
      simp only [find?_unplaced]
      cases node.find? name entries <;> rfl
  | _ => rfl

theorem required_unplaced : node.unplaced.required name = unplaced <$> node.required name := by
  unfold required
  rw [value_unplaced]
  cases node.value with
  | object entries =>
      simp only [find?_unplaced]
      cases node.find? name entries <;> rfl
  | _ => rfl

theorem childrenFrom_unplaced {position : Nat} {values : List Json} :
    node.unplaced.childrenFrom position values = (node.childrenFrom position values).map unplaced := by
  induction values generalizing position with
  | nil => rfl
  | cons value rest ih => rw [childrenFrom, childrenFrom, ih, List.map_cons]; rfl

theorem elements_unplaced : node.unplaced.elements = List.map unplaced <$> node.elements := by
  unfold elements
  rw [value_unplaced]
  cases node.value.elements with
  | error fault => rfl
  | ok values => exact congrArg Except.ok childrenFrom_unplaced

theorem entriesFrom_unplaced {position : Nat} {entries : List (String × Json)} :
    node.unplaced.entriesFrom position entries =
      (node.entriesFrom position entries).map fun entry => (entry.1, entry.2.unplaced) := by
  induction entries generalizing position with
  | nil => rfl
  | cons entry rest ih => rw [entriesFrom, entriesFrom, ih, List.map_cons]; rfl

theorem entries_unplaced : node.unplaced.entries =
    List.map (fun entry => (entry.1, entry.2.unplaced)) <$> node.entries := by
  unfold entries
  rw [value_unplaced]
  cases node.value.entries with
  | error fault => rfl
  | ok entries => exact congrArg Except.ok entriesFrom_unplaced

theorem orElse_unplaced {fallback : Json} :
    node.unplaced.orElse fallback = (node.orElse fallback).unplaced := by
  unfold orElse
  rw [value_unplaced]
  split <;> rfl

end Node

namespace Schema

/-- The facts of a schema that stands nowhere. -/
def Facts.unplaced (facts : Facts) : Facts := { facts with node := facts.node.unplaced }

mutual

/-- The schema without the places that it and its parts were parsed from. -/
def unplaced : Schema → Schema
  | .mk facts items properties additional members =>
      .mk facts.unplaced (unplacedChild items) (unplacedProperties properties)
        (unplacedChild additional) (unplacedMembers members)

/-- The child without places. -/
def unplacedChild : Option Schema → Option Schema
  | none => none
  | some child => some (unplaced child)

/-- The properties without places. -/
def unplacedProperties : List (String × Schema) → List (String × Schema)
  | [] => []
  | (name, property) :: rest => (name, unplaced property) :: unplacedProperties rest

/-- The members without places. -/
def unplacedMembers : List Schema → List Schema
  | [] => []
  | member :: rest => unplaced member :: unplacedMembers rest

end

variable {schema : Schema}

theorem unplacedChild_eq_map {child : Option Schema} :
    unplacedChild child = child.map unplaced := by
  cases child <;> rfl

theorem unplacedProperties_eq_map {properties : List (String × Schema)} :
    unplacedProperties properties =
      properties.map fun property => (property.1, property.2.unplaced) := by
  induction properties with
  | nil => rfl
  | cons property rest ih => rw [unplacedProperties, ih, List.map_cons]

theorem unplacedMembers_eq_map {members : List Schema} :
    unplacedMembers members = members.map unplaced := by
  induction members with
  | nil => rfl
  | cons member rest ih => rw [unplacedMembers, ih, List.map_cons]

theorem unplaced_mk {facts : Facts} {items additional : Option Schema}
    {properties : List (String × Schema)} {members : List Schema} :
    (mk facts items properties additional members).unplaced =
      .mk facts.unplaced (items.map unplaced)
        (properties.map fun property => (property.1, property.2.unplaced))
        (additional.map unplaced) (members.map unplaced) := by
  rw [unplaced, unplacedChild_eq_map, unplacedProperties_eq_map, unplacedChild_eq_map,
    unplacedMembers_eq_map]

@[simp] theorem facts_unplaced : schema.unplaced.facts = schema.facts.unplaced := by
  cases schema
  rfl

theorem items_unplaced : schema.unplaced.items = schema.items.map unplaced := by
  cases schema
  exact unplacedChild_eq_map

theorem properties_unplaced : schema.unplaced.properties =
    schema.properties.map fun property => (property.1, property.2.unplaced) := by
  cases schema
  exact unplacedProperties_eq_map

theorem additional_unplaced : schema.unplaced.additional = schema.additional.map unplaced := by
  cases schema
  exact unplacedChild_eq_map

theorem members_unplaced : schema.unplaced.members = schema.members.map unplaced := by
  cases schema
  exact unplacedMembers_eq_map

theorem isNote_unplaced : schema.unplaced.isNote = schema.isNote := by
  cases schema
  rfl

/-! ## Parsing -/

theorem factsOf_unplaced {node : Node} {entries : List (String × Json)} :
    factsOf node.unplaced entries = Facts.unplaced <$> factsOf node entries := by
  unfold factsOf
  simp only [map_bind, map_pure]
  rfl

theorem memberNodes_unplaced {kind : Kind} {node : Node} :
    memberNodes kind node.unplaced = List.map Node.unplaced <$> memberNodes kind node := by
  unfold memberNodes
  cases kind with
  | union =>
      simp only [Node.member_unplaced, map_bind, bind_map_left]
      refine bind_congr fun oneOf => bind_congr fun anyOf => ?_
      by_cases first : oneOf.value.truthy = true
      · have first' : oneOf.unplaced.value.truthy = true := first
        rw [if_pos first, if_pos first']
        exact Node.elements_unplaced
      · have first' : ¬ oneOf.unplaced.value.truthy = true := first
        rw [if_neg first, if_neg first', Node.orElse_unplaced]
        exact Node.elements_unplaced
  | allOf =>
      simp only [Node.member_unplaced, map_bind, bind_map_left, Node.elements_unplaced]
  | _ => rfl

theorem parseWithin_unplaced {bound : Nat} {node : Node} :
    parseWithin bound node.unplaced = unplaced <$> parseWithin bound node := by
  induction bound generalizing node with
  | zero => rfl
  | succ bound ih =>
      have each (nodes : List Node) : nodes.mapM (parseWithin bound ∘ Node.unplaced) =
          List.map unplaced <$> nodes.mapM (parseWithin bound) := by
        rw [← mapM_map_results]
        exact congrArg nodes.mapM (funext fun _ => ih)
      have named (entries : List (String × Node)) :
          entries.mapM ((fun entry => do return (entry.1, ← parseWithin bound entry.2)) ∘
            fun entry => (entry.1, entry.2.unplaced)) =
          List.map (fun property => (property.1, property.2.unplaced)) <$>
            entries.mapM fun entry => do return (entry.1, ← parseWithin bound entry.2) := by
        rw [← mapM_map_results]
        refine congrArg entries.mapM (funext fun entry => ?_)
        simp only [Function.comp, ih, bind_map_left, map_bind, map_pure]
      have only (child : Option Node) : (child.map Node.unplaced).mapM (parseWithin bound) =
          Option.map unplaced <$> child.mapM (parseWithin bound) := by
        cases child with
        | none => rfl
        | some node =>
            simp only [Option.map_some, Option.mapM_some, ih, Functor.map_map]
      unfold parseWithin
      rw [Node.value_unplaced]
      cases value : node.value with
      | null => rfl
      | object entries =>
          simp only [factsOf_unplaced, map_bind, bind_map_left]
          refine bind_congr fun facts => ?_
          by_cases reference : (facts.kind == .reference) = true
          · have reference' : (facts.unplaced.kind == .reference) = true := reference
            rw [if_pos reference, if_pos reference']
            rfl
          · have reference' : ¬ (facts.unplaced.kind == .reference) = true := reference
            rw [if_neg reference, if_neg reference']
            simp only [map_bind, memberNodes_unplaced, bind_map_left, Node.member_unplaced,
              Node.entries_unplaced, Node.orElse_unplaced, Node.find?_unplaced,
              List.mapM_map, each, named, only]
            refine bind_congr fun nodes => bind_congr fun members => bind_congr fun items =>
              bind_congr fun held => bind_congr fun inner => bind_congr fun properties =>
              bind_congr fun further => ?_
            rw [Node.value_unplaced]
            cases further.value <;>
              simp only [ih, bind_map_left, map_bind, map_pure, unplaced_mk, pure_bind,
                Option.map_some, Option.map_none]
      | _ => rfl

/-- What stands nowhere has the same schema without places. -/
theorem parse_unplaced {node : Node} : parse node.unplaced = unplaced <$> parse node :=
  parseWithin_unplaced

end Schema

end TypedContract
