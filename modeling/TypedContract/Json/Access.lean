/-
# TypedContract.Json.Access -- walking values of unknown shape

A contract comes with no promise about its shape.  These are the questions asked
of its values and the faults of asking the wrong kind: members belong to
objects; keys are looked for in objects, lists and texts; objects (their keys),
lists and texts (their characters) can be walked.
-/
import TypedContract.Fault

namespace TypedContract.Json

set_option autoImplicit false

/-- The member of an object, if it has one of that name. -/
def member? (name : String) : Json → Except Fault (Option Json)
  | .object entries => .ok (find? name entries)
  | _ => .error .noMember

/-- The member of an object, `null` when there is none. -/
def member (value : Json) (name : String) : Except Fault Json := do
  return (← value.member? name).getD .null

/-- One list of characters occurs in another. -/
def occursIn (part : List Char) : List Char → Bool
  | [] => part.isEmpty
  | c :: rest => part.isPrefixOf (c :: rest) || occursIn part rest

/-- A name is a key of an object, an item of a list or a part of a text. -/
def holds (value : Json) (name : String) : Except Fault Bool :=
  match value with
  | .object entries => .ok (find? name entries).isSome
  | .list items => .ok (items.any (same (.str name)))
  | .str text => .ok (occursIn name.toList text.toList)
  | _ => .error .unsuitable

/-- The value of a key that must be there. -/
def required (value : Json) (name : String) : Except Fault Json :=
  match value with
  | .object entries =>
      match find? name entries with
      | some found => .ok found
      | none => .error (.missingKey name)
  | _ => .error .unsuitable

/-- The items of a list, the keys of an object or the characters of a text. -/
def elements : Json → Except Fault (List Json)
  | .list items => .ok items
  | .object entries => .ok (entries.map fun entry => .str entry.1)
  | .str text => .ok (text.toList.map fun c => .str (String.singleton c))
  | _ => .error .unsuitable

/-- The entries of an object. -/
def entries : Json → Except Fault (List (String × Json))
  | .object entries => .ok entries
  | _ => .error .noMember

/-- The number of elements. -/
def size (value : Json) : Except Fault Nat := do return (← value.elements).length

/-- The content of a text. -/
def text : Json → Except Fault String
  | .str content => .ok content
  | _ => .error .unsuitable


/-- The value can serve as a key: it is no list and no object. -/
def isKey : Json → Bool
  | .list _ => false
  | .object _ => false
  | _ => true


/-- The value, which must be able to serve as a key. -/
def key (value : Json) : Except Fault Json :=
  if value.isKey then .ok value else .error .unsuitable

/-- The value after a key was assigned; only objects take one. -/
def assign (name : String) (content value : Json) : Except Fault Json :=
  match value with
  | .object entries => .ok (.object (put name content entries))
  | _ => .error .unsuitable

end TypedContract.Json
