/-
# TypedContract.Json.Node -- values with their place in a document

Two parts of a contract can be equal without being the same part.  A `Node` is a
value together with the place where it stands: the number of the document it
belongs to and the positions of the children on the way down.  Places stay valid
while keys are assigned, because a key keeps its position and a new one comes
last.

Some keys are themselves values of the contract.  An object is looked up by a
text, a list and a text by a position, which counts from the end when negative.
-/
import TypedContract.Json.Access

namespace TypedContract

set_option autoImplicit false

/-- Where a value stands. -/
structure Place where
  /-- The number of the document. -/
  document : Nat
  /-- The positions of the children on the way from the root. -/
  path : List Nat
  deriving DecidableEq, Inhabited

/-- A value and its place; a value that was put in for a missing one stands in no
document. -/
structure Node where
  value : Json
  place : Option Place
  deriving Inhabited

namespace Node

/-- The root of a document. -/
def root (document : Nat) (value : Json) : Node := ⟨value, some ⟨document, []⟩⟩

/-- A value that stands in no document. -/
def free (value : Json) : Node := ⟨value, none⟩

/-- A child at a position. -/
def child (node : Node) (position : Nat) (value : Json) : Node :=
  ⟨value, node.place.map fun place => ⟨place.document, place.path ++ [position]⟩⟩

/-- The entry of an object. -/
def find? (node : Node) (name : String) (entries : List (String × Json)) : Option Node :=
  match Json.position? name entries, Json.find? name entries with
  | some position, some value => some (node.child position value)
  | _, _ => none

/-- The member of an object, if it has one of that name. -/
def member? (node : Node) (name : String) : Except Fault (Option Node) :=
  match node.value with
  | .object entries => .ok (node.find? name entries)
  | _ => .error .noMember

/-- The member of an object, `null` when there is none. -/
def member (node : Node) (name : String) : Except Fault Node := do
  return (← node.member? name).getD (free .null)

/-- The value of a key that must be there. -/
def required (node : Node) (name : String) : Except Fault Node :=
  match node.value with
  | .object entries =>
      match node.find? name entries with
      | some found => .ok found
      | none => .error (.missingKey name)
  | _ => .error .unsuitable

/-- The children with their positions from `position` on. -/
def childrenFrom (node : Node) (position : Nat) : List Json → List Node
  | [] => []
  | value :: rest => node.child position value :: childrenFrom node (position + 1) rest

/-- The elements that a walk meets. -/
def elements (node : Node) : Except Fault (List Node) := do
  return node.childrenFrom 0 (← node.value.elements)

/-- The named children from a position on. -/
def entriesFrom (node : Node) (position : Nat) :
    List (String × Json) → List (String × Node)
  | [] => []
  | (name, value) :: rest =>
      (name, node.child position value) :: entriesFrom node (position + 1) rest

/-- The entries of an object. -/
def entries (node : Node) : Except Fault (List (String × Node)) := do
  return node.entriesFrom 0 (← node.value.entries)

/-- The node itself unless its value counts as absent. -/
def orElse (node : Node) (fallback : Json) : Node :=
  if node.value.truthy then node else free fallback

/-! ## Looking up by a value -/

/-- The position that an integer means among `size` elements. -/
def positionOf? (size : Nat) (index : Int) : Option Nat :=
  let position := if index < 0 then index + size else index
  if 0 ≤ position && position < size then some position.toNat else none

/-- The element at an integer position. -/
def elementAt (index : Int) (elements : List Node) : Except Fault Node :=
  match (positionOf? elements.length index).bind (elements[·]?) with
  | some element => .ok element
  | none => .error .badIndex

/-- The value under a key. -/
def index (node : Node) (key : Json) : Except Fault Node :=
  match node.value, key with
  | .object _, .str name => node.required name
  | .object _, key => do
      let key ← key.key
      throw (.missingKey key.plain)
  | .list _, key => match key.int? with
      | some position => do elementAt position (← node.elements)
      | none => .error .unsuitable
  | .str _, key => match key.int? with
      | some position => do elementAt position (← node.elements)
      | none => .error .unsuitable
  | _, _ => .error .unsuitable

end Node

namespace Json

/-- The value at a path. -/
def at? : List Nat → Json → Option Json
  | [], value => some value
  | position :: path, .list items => items[position]?.bind (at? path)
  | position :: path, .object entries => entries[position]?.bind fun entry => at? path entry.2
  | _ :: _, _ => none

/-- Replaces the value at a path. -/
def replaceAt (new : Json) : List Nat → Json → Json
  | [], _ => new
  | position :: path, .list items => .list (items.modify position (replaceAt new path))
  | position :: path, .object entries =>
      .object (entries.modify position fun entry => (entry.1, replaceAt new path entry.2))
  | _ :: _, value => value

end Json

end TypedContract
