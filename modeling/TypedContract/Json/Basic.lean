/-
# TypedContract.Json.Basic -- the values a contract is made of

An object keeps its entries in the order in which its keys were first assigned;
assigning a key again replaces the value in place.  Integers and doubles are
different values that may be equal: `Json.same` compares numbers by value, truth
values as 0 and 1, and objects without regard to the order of their keys.

The depth of a value bounds every recursion that goes from a value to the values in it, its
weight every walk that visits each part of a document at most once.
-/
import TypedContract.Double.Basic

namespace TypedContract

set_option autoImplicit false

/-- A JSON value with unbounded integers and ordered objects. -/
inductive Json where
  | null
  | bool (value : Bool)
  | int (value : Int)
  | double (value : Double)
  | str (value : String)
  | list (items : List Json)
  | object (entries : List (String × Json))

namespace Json

instance : Inhabited Json := ⟨.null⟩

/-- The value of a key in a list of entries. -/
def find? (name : String) : List (String × Json) → Option Json
  | [] => none
  | (key, value) :: rest => if key == name then some value else find? name rest

/-- The position of a key in a list of entries. -/
def position? (name : String) : List (String × Json) → Option Nat
  | [] => none
  | (key, _) :: rest => if key == name then some 0 else (position? name rest).map (· + 1)

/-- Assigns a key: in its place when it is present, at the end otherwise. -/
def put (name : String) (value : Json) : List (String × Json) → List (String × Json)
  | [] => [(name, value)]
  | (key, old) :: rest =>
      if key == name then (key, value) :: rest else (key, old) :: put name value rest

/-- The entries after assigning them one by one. -/
def assignAll (entries : List (String × Json)) : List (String × Json) :=
  entries.foldl (fun object entry => put entry.1 entry.2 object) []

/-- Empty and zero values and `null` count as absent where a default is given. -/
def truthy : Json → Bool
  | .null => false
  | .bool value => value
  | .int value => value != 0
  | .double value => !value.isZero
  | .str value => value != ""
  | .list items => !items.isEmpty
  | .object entries => !entries.isEmpty

/-- The value itself unless it counts as absent. -/
def orElse (value fallback : Json) : Json := if value.truthy then value else fallback

/-- The value is `null`. -/
def isNull : Json → Bool
  | .null => true
  | _ => false

/-- The content of a text. -/
def str? : Json → Option String
  | .str content => some content
  | _ => none

/-- An integer reading of truth values and integers. -/
def int? : Json → Option Int
  | .bool value => some (if value then 1 else 0)
  | .int value => some value
  | _ => none

mutual

/-- Equality of values: numbers by value, objects without regard to order. -/
def same : Json → Json → Bool
  | .null, .null => true
  | .str a, .str b => a == b
  | .list a, .list b => sameItems a b
  | .object a, .object b => a.length == b.length && sameEntries a b
  | .double a, .double b => a.same b
  | .double a, b => match b.int? with
      | some n => a.equalsInt n
      | none => false
  | a, .double b => match a.int? with
      | some n => b.equalsInt n
      | none => false
  | a, b => match a.int?, b.int? with
      | some n, some m => n == m
      | _, _ => false

/-- Equality of lists, item by item. -/
def sameItems : List Json → List Json → Bool
  | [], [] => true
  | a :: as, b :: bs => same a b && sameItems as bs
  | _, _ => false

/-- Every entry has an equal one under the same key. -/
def sameEntries : List (String × Json) → List (String × Json) → Bool
  | [], _ => true
  | (key, value) :: rest, others =>
      (match find? key others with
        | some other => same value other
        | none => false) && sameEntries rest others

end

/-! ## Depth and weight -/

mutual

/-- The depth of nesting of a value. -/
def depth : Json → Nat
  | .list items => itemsDepth items + 1
  | .object entries => entriesDepth entries + 1
  | _ => 1

/-- The greatest depth of the items. -/
def itemsDepth : List Json → Nat
  | [] => 0
  | item :: rest => max (depth item) (itemsDepth rest)

/-- The greatest depth of the values. -/
def entriesDepth : List (String × Json) → Nat
  | [] => 0
  | (_, value) :: rest => max (depth value) (entriesDepth rest)

end

mutual

/-- The number of values in a value, itself included. -/
def weight : Json → Nat
  | .list items => itemsWeight items + 1
  | .object entries => entriesWeight entries + 1
  | _ => 1

/-- The number of values in the items. -/
def itemsWeight : List Json → Nat
  | [] => 0
  | item :: rest => weight item + itemsWeight rest

/-- The number of values in the entries. -/
def entriesWeight : List (String × Json) → Nat
  | [] => 0
  | (_, value) :: rest => weight value + entriesWeight rest

end

end Json

end TypedContract
