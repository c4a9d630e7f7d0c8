/-
# TypedContract.Proofs.Translation.Descent -- ways down from a schema

A translation goes down from a schema to its children and from a reference to the component
that it names, unless that is registered already.  `StepsDown` is one step of that way; which
components may still be entered is a parameter.  When the components point to one another
without cycles, no way down comes back to the schema that it began with
(`Acyclic.not_stepsDown_self`).  What a component points to can be computed
(`mem_pointed_iff`), and ranks that fall along it rule cycles out (`acyclic_of_rank`).

What sessions remember of a schema is its place.  `Descent` says of a property of schemas
that it holds all the way down and that no way down comes back to the place that it began
at.  Schemas that stand in the document have it, since the place tells the schema
(`descent_isPartOf`), and so has every schema that was parsed when no component is entered,
since places grow longer on the way (`descent_parsed`).
-/
import Mathlib.Logic.Relation
import Mathlib.Order.WellFounded
import TypedContract.Proofs.Translation.Hoisting
import TypedContract.Proofs.Translation.Over

namespace TypedContract

set_option autoImplicit false

open Relation

namespace Schema

/-- Every way from children to children comes to an end. -/
theorem wellFounded_child : WellFounded fun inner schema : Schema => Child schema inner := by
  refine ⟨Schema.induction fun schema items properties additional members => ?_⟩
  refine .intro schema fun inner child => ?_
  cases child with
  | item here => exact items inner here
  | value here => exact additional inner here
  | property member => exact properties _ member
  | member inside => exact members inner inside

theorem not_child_self (schema : Schema) : ¬ TransGen Child schema schema := by
  intro cycle
  have irreflexive := wellFounded_child.transGen.irrefl
  exact irreflexive.irrefl schema (transGen_swap.2 cycle)

/-- What is below a schema was parsed from a part of what the schema was parsed from. -/
theorem Parsed.below {node : Node} {schema inner : Schema} (parsed : Parsed node schema)
    (below : TransGen Child schema inner) : ∃ part, part.Inside node ∧ Parsed part inner := by
  induction below with
  | single child => exact parsed.child child
  | tail _ child ih =>
      obtain ⟨middle, inside, parsedMiddle⟩ := ih
      obtain ⟨part, within, parsedPart⟩ := parsedMiddle.child child
      exact ⟨part, within.trans inside, parsedPart⟩

/-- Places grow longer on the way down. -/
theorem Parsed.place_ne {node : Node} {schema inner : Schema} (parsed : Parsed node schema)
    (below : TransGen Child schema inner) {place : Place}
    (placed : schema.facts.node.place = some place) : inner.facts.node.place ≠ some place := by
  intro innerPlaced
  obtain ⟨part, ⟨path, some, -, here⟩, parsedInner⟩ := parsed.below below
  rw [parsed.node_eq placed] at placed
  rw [parsedInner.node_eq innerPlaced] at innerPlaced
  rw [innerPlaced, placed] at here
  have same : place = ⟨place.document, place.path ++ path⟩ := Option.some.inj here
  have length := congrArg (fun place => place.path.length) same
  rw [List.length_append] at length
  have longer : 0 < path.length := List.length_pos_of_ne_nil some
  omega

/-! ## All that is below a schema -/

mutual

/-- The schema and all that is below it. -/
def parts : Schema → List Schema
  | .mk facts items properties additional members =>
      .mk facts items properties additional members ::
        (childParts items ++ propertyParts properties ++ childParts additional ++
          memberParts members)

/-- The child and all that is below it. -/
def childParts : Option Schema → List Schema
  | none => []
  | some child => parts child

/-- The properties and all that is below them. -/
def propertyParts : List (String × Schema) → List Schema
  | [] => []
  | (_, property) :: rest => parts property ++ propertyParts rest

/-- The members and all that is below them. -/
def memberParts : List Schema → List Schema
  | [] => []
  | member :: rest => parts member ++ memberParts rest

end

section

variable {schema part : Schema}

theorem mem_childParts_iff {child : Option Schema} :
    part ∈ childParts child ↔ ∃ inner, child = some inner ∧ part ∈ inner.parts := by
  cases child <;> simp [childParts]

theorem mem_propertyParts_iff {properties : List (String × Schema)} :
    part ∈ propertyParts properties ↔ ∃ property ∈ properties, part ∈ property.2.parts := by
  induction properties with
  | nil => simp [propertyParts]
  | cons property rest ih => simp [propertyParts, ih]

theorem mem_memberParts_iff {members : List Schema} :
    part ∈ memberParts members ↔ ∃ member ∈ members, part ∈ member.parts := by
  induction members with
  | nil => simp [memberParts]
  | cons member rest ih => simp [memberParts, ih]

/-- A part of a schema is the schema or a part of one of its children. -/
theorem mem_parts_iff_child :
    part ∈ schema.parts ↔ part = schema ∨ ∃ inner, Child schema inner ∧ part ∈ inner.parts := by
  obtain ⟨facts, items, properties, additional, members⟩ := schema
  simp only [parts, List.mem_cons, List.mem_append, mem_childParts_iff, mem_propertyParts_iff,
    mem_memberParts_iff]
  refine or_congr_right ⟨?_, ?_⟩
  · rintro (((⟨inner, here, below⟩ | ⟨⟨name, inner⟩, here, below⟩) | ⟨inner, here, below⟩) |
      ⟨inner, here, below⟩)
    · exact ⟨inner, .item here, below⟩
    · exact ⟨inner, .property here, below⟩
    · exact ⟨inner, .value here, below⟩
    · exact ⟨inner, .member here, below⟩
  · rintro ⟨inner, here | here | here | here, below⟩
    · exact .inl (.inl (.inl ⟨inner, here, below⟩))
    · exact .inl (.inr ⟨inner, here, below⟩)
    · exact .inl (.inl (.inr ⟨_, here, below⟩))
    · exact .inr ⟨inner, here, below⟩

theorem mem_parts_iff : part ∈ schema.parts ↔ ReflTransGen Child schema part := by
  constructor
  · intro member
    induction schema using wellFounded_child.induction with
    | _ schema ih =>
      rcases mem_parts_iff_child.1 member with rfl | ⟨inner, child, below⟩
      · exact .refl
      · exact .head child (ih inner child below)
  · intro below
    induction below using ReflTransGen.head_induction_on with
    | refl => exact mem_parts_iff_child.2 (.inl rfl)
    | head child _ ih => exact mem_parts_iff_child.2 (.inr ⟨_, child, ih⟩)

end

end Schema

namespace Translation

open Schema

variable {schemas : Node} {opens : String → Prop}

/-! ## The graph of components -/

/-- The schema is a reference to a component. -/
def RefersTo (schemas : Node) (schema : Schema) (name : String) : Prop :=
  schema.facts.kind = .reference ∧ target? schemas schema.facts = .ok (some name)

/-- The first component points to the second: its schema contains a reference to it. -/
def PointsTo (schemas : Node) (name other : String) : Prop :=
  ∃ schema part, componentSchema schemas name = .ok schema ∧
    ReflTransGen Child schema part ∧ RefersTo schemas part other

/-- No component points to itself, be it through others. -/
def Acyclic (schemas : Node) : Prop := ∀ name, ¬ TransGen (PointsTo schemas) name name

/-- The component that a schema refers to. -/
def referred? (schemas : Node) (schema : Schema) : Option String :=
  if schema.facts.kind = .reference then
    match target? schemas schema.facts with
    | .ok name => name
    | .error _ => none
  else none

theorem referred?_eq_some_iff {schema : Schema} {name : String} :
    referred? schemas schema = some name ↔ RefersTo schemas schema name := by
  unfold referred? RefersTo
  split
  · rename_i kind
    cases target? schemas schema.facts <;> simp [kind]
  · rename_i other
    simp [other]

/-- The components that a component points to. -/
def pointed (schemas : Node) (name : String) : List String :=
  match componentSchema schemas name with
  | .ok schema => schema.parts.filterMap (referred? schemas)
  | .error _ => []

theorem mem_pointed_iff {name other : String} :
    other ∈ pointed schemas name ↔ PointsTo schemas name other := by
  unfold pointed PointsTo
  cases parsed : componentSchema schemas name with
  | error fault => simp
  | ok schema =>
      simp only [List.mem_filterMap, mem_parts_iff, referred?_eq_some_iff]
      constructor
      · rintro ⟨part, below, refers⟩
        exact ⟨schema, part, rfl, below, refers⟩
      · rintro ⟨whole, part, same, below, refers⟩
        cases same
        exact ⟨part, below, refers⟩

/-- Ranks that fall from each component to those it points to rule cycles out. -/
theorem acyclic_of_rank (rank : String → Nat)
    (falls : ∀ name ∈ componentNames schemas, ∀ other ∈ pointed schemas name,
      rank other < rank name) : Acyclic schemas := by
  have step : ∀ {name other}, PointsTo schemas name other → rank other < rank name := by
    rintro name other ⟨schema, part, parsed, below, refers⟩
    have pointed := mem_pointed_iff.2 ⟨schema, part, parsed, below, refers⟩
    exact falls name (mem_componentNames_of_schema parsed) other pointed
  have fall : ∀ {name other}, TransGen (PointsTo schemas) name other → rank other < rank name := by
    intro name other way
    induction way with
    | single points => exact step points
    | tail _ points ih => exact (step points).trans ih
  exact fun name cycle => lt_irrefl _ (fall cycle)

/-! ## Ways down -/

/-- From a schema to a child, or from a reference to its component if that may be
entered. -/
inductive StepsDown (schemas : Node) (opens : String → Prop) (schema : Schema) : Schema → Prop where
  | child {inner : Schema} (child : Child schema inner) : StepsDown schemas opens schema inner
  | component {name : String} {inner : Schema} (refers : RefersTo schemas schema name)
      (opened : opens name) (parsed : componentSchema schemas name = .ok inner) :
      StepsDown schemas opens schema inner

/-- A way down from a component ends below a component that it points to, through others
or directly, or below its own schema. -/
theorem exists_pointsTo_of_stepsDown {name : String} {schema part : Schema}
    (parsed : componentSchema schemas name = .ok schema)
    (way : ReflTransGen (StepsDown schemas opens) schema part) :
    ∃ last whole, ReflTransGen (PointsTo schemas) name last ∧
      componentSchema schemas last = .ok whole ∧ ReflTransGen Child whole part := by
  induction way with
  | refl => exact ⟨name, schema, .refl, parsed, .refl⟩
  | tail _ step ih =>
      obtain ⟨last, whole, points, parsedWhole, below⟩ := ih
      cases step with
      | child child => exact ⟨last, whole, points, parsedWhole, below.tail child⟩
      | @component next _ refers opened parsedNext =>
          have further : PointsTo schemas last next := ⟨whole, _, parsedWhole, below, refers⟩
          exact ⟨next, _, points.tail further, parsedNext, .refl⟩

/-- A way down stays below the schema or enters a component last. -/
theorem below_or_enters {schema part : Schema}
    (way : TransGen (StepsDown schemas opens) schema part) :
    TransGen Child schema part ∨
    ∃ reference name whole, ReflTransGen (StepsDown schemas opens) schema reference ∧
      RefersTo schemas reference name ∧ componentSchema schemas name = .ok whole ∧
      ReflTransGen (StepsDown schemas opens) whole part := by
  induction way with
  | single step =>
      cases step with
      | child child => exact .inl (.single child)
      | component refers opened parsed => exact .inr ⟨_, _, _, .refl, refers, parsed, .refl⟩
  | tail before step ih =>
      cases step with
      | child child =>
          rcases ih with below | ⟨reference, name, whole, way, refers, parsed, rest⟩
          · exact .inl (below.tail child)
          · exact .inr ⟨reference, name, whole, way, refers, parsed, rest.tail (.child child)⟩
      | component refers opened parsed =>
          exact .inr ⟨_, _, _, before.to_reflTransGen, refers, parsed, .refl⟩

/-- When the components point to one another without cycles, no way down comes back. -/
theorem Acyclic.not_stepsDown_self (acyclic : Acyclic schemas) (schema : Schema) :
    ¬ TransGen (StepsDown schemas opens) schema schema := by
  intro cycle
  rcases below_or_enters cycle with below | ⟨reference, name, whole, way, refers, parsed, rest⟩
  · exact not_child_self schema below
  · -- from the component that was entered last, once around to the reference to it
    obtain ⟨last, lastWhole, points, parsedLast, below⟩ :=
      exists_pointsTo_of_stepsDown parsed (rest.trans way)
    have closing : PointsTo schemas last name := ⟨lastWhole, reference, parsedLast, below, refers⟩
    exact acyclic name (TransGen.tail' points closing)

/-! ## Properties on the way down -/

/-- The property holds all the way down, and no way down comes back to where it began: to
a schema or to a place. -/
structure Descent (schemas : Node) (opens : String → Prop) (fits : Schema → Prop) : Prop where
  child : ∀ {schema inner}, fits schema → Child schema inner → fits inner
  component : ∀ {name schema}, opens name → componentSchema schemas name = .ok schema → fits schema
  acyclic : ∀ schema, ¬ TransGen (StepsDown schemas opens) schema schema
  apart : ∀ {schema inner place}, fits schema → TransGen (StepsDown schemas opens) schema inner →
    schema.facts.node.place = some place → inner.facts.node.place ≠ some place

/-- What stands in the document stands there all the way down. -/
theorem descent_isPartOf {number : Nat} {contract : Json}
    (document : schemas.Stands number contract)
    (acyclic : Acyclic schemas) : Descent schemas opens (·.IsPartOf number contract) where
  child := fun stands child => stands.child child
  component := fun _ parsed => isPartOf_component document parsed
  acyclic := acyclic.not_stepsDown_self
  apart := by
    intro schema inner place stands way placed innerPlaced
    have innerStands : inner.IsPartOf number contract := by
      clear innerPlaced
      induction way with
      | single step =>
          cases step with
          | child child => exact stands.child child
          | component refers opened parsed => exact isPartOf_component document parsed
      | tail _ step ih =>
          cases step with
          | child child => exact ih.child child
          | component refers opened parsed => exact isPartOf_component document parsed
    have same : schema = inner := stands.eq_of_place innerStands placed innerPlaced
    subst same
    exact acyclic.not_stepsDown_self schema way

/-- Where no component is entered, all that was parsed only leads to what is below it. -/
theorem descent_parsed :
    Descent schemas (fun _ => False) fun schema => ∃ node, Parsed node schema := by
  have below : ∀ {schema inner}, TransGen (StepsDown schemas fun _ => False) schema inner →
      TransGen Child schema inner := by
    intro schema inner way
    refine TransGen.mono ?_ _ _ way
    intro schema inner step
    cases step with
    | child child => exact child
    | component refers opened parsed => exact opened.elim
  refine ⟨?_, fun opened => opened.elim, fun schema cycle => not_child_self schema (below cycle), ?_⟩
  · rintro schema inner ⟨node, parsed⟩ child
    obtain ⟨part, -, parsedPart⟩ := parsed.child child
    exact ⟨part, parsedPart⟩
  · rintro schema inner place ⟨node, parsed⟩ way placed
    exact parsed.place_ne (below way) placed

end Translation

end TypedContract
