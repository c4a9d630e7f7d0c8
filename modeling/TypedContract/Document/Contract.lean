/-
# TypedContract.Document.Contract -- the parts of a contract

Paths and component schemas are objects of the document; a part that is missing
or counts as absent is an empty object.
-/
import TypedContract.Json.Node

namespace TypedContract.Contract

set_option autoImplicit false

/-- The HTTP methods of operations, in the order in which they are looked up. -/
def methods : List String :=
  ["get", "put", "post", "delete", "options", "head", "patch", "trace"]

/-- The empty object. -/
def empty : Json := .object []

/-- The paths of a document. -/
def paths (document : Node) : Except Fault Node := do
  return (← document.member "paths").orElse empty

/-- The component schemas of a document. -/
def schemas (document : Node) : Except Fault Node := do
  let components := (← document.member "components").orElse empty
  return (← components.member "schemas").orElse empty

/-- An operation with its path, its method and the parameters of its path. -/
structure Operation where
  path : String
  method : String
  node : Node
  shared : Node

/-- The methods of a path item that hold an object, in order. -/
def operationsOf (path : String) (item shared : Node) :
    List String → Except Fault (List Operation)
  | [] => .ok []
  | method :: rest => do
      let node ← item.member method
      let more ← operationsOf path item shared rest
      match node.value with
      | .object _ => return ⟨path, method, node, shared⟩ :: more
      | _ => return more

/-- The operations of the path items, in order; an item that is no object has
none. -/
def operationsOfItems : List (String × Node) → Except Fault (List Operation)
  | [] => .ok []
  | (path, item) :: rest =>
      match item.value with
      | .object _ => do
          let shared := (← item.member "parameters").orElse (.list [])
          let own ← operationsOf path item shared methods
          return own ++ (← operationsOfItems rest)
      | _ => operationsOfItems rest

/-- The operations of a document, in order. -/
def operations (document : Node) : Except Fault (List Operation) := do
  operationsOfItems (← (← paths document).entries)

end TypedContract.Contract
