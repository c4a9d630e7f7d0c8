/-
# TypedContract.Json.Pointer -- references into a document

A local reference is `#/` followed by keys joined with `/`; in a key, `~1` stands
for `/` and `~0` for `~`.  A reference leads through objects only.
-/
import TypedContract.Json.Node
import TypedContract.Text.Ranges

namespace TypedContract.Pointer

set_option autoImplicit false

/-- Replaces every pair of characters `a`, `b` by `c`, from left to right. -/
def replacePair (a b c : Char) : List Char → List Char
  | x :: y :: rest =>
      if x == a && y == b then c :: replacePair a b c rest
      else x :: replacePair a b c (y :: rest)
  | text => text

/-- The key that a part of a reference stands for. -/
def unescape (part : List Char) : List Char :=
  replacePair '~' '0' '~' (replacePair '~' '1' '/' part)

/-- The part of a reference that stands for a key. -/
def escape (key : List Char) : List Char :=
  key.flatMap fun c => if c == '~' then ['~', '0'] else if c == '/' then ['~', '1'] else [c]

/-- The keys of a local reference. -/
def keys? (ref : String) : Option (List String) :=
  match ref.toList with
  | '#' :: '/' :: rest =>
      some ((Text.splitOnChar (· == '/') rest).map fun part => String.ofList (unescape part))
  | _ => none

/-- The value that keys lead to through nested objects. -/
def follow? (node : Node) : List String → Option Node
  | [] => some node
  | name :: rest =>
      match node.value with
      | .object entries =>
          match node.find? name entries with
          | some child => follow? child rest
          | none => none
      | _ => none

/-- The value that a reference leads to. -/
def resolve (document : Node) (ref : Json) : Except Fault Node :=
  match ref with
  | .str text =>
      match (keys? text).bind (follow? document) with
      | some found => .ok found
      | none => .error (.missingKey text)
  | _ => .error .noMember

end TypedContract.Pointer
