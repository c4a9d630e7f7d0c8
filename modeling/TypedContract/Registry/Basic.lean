/-
# TypedContract.Registry.Basic -- the named types of one run

Entries are kept in the order in which their types were completed, so the types
a type depends on come before it.  A name is in progress while its type is being
built; it then stands for a reference to itself, which lets schemas that refer to
themselves come to an end.  Reserved names are never given to a new type.
-/
import TypedContract.Ty.Basic

namespace TypedContract

set_option autoImplicit false

/-- The named types, the names in progress and the reserved names. -/
structure Registry where
  entries : List (String × Ty) := []
  building : List String := []
  reserved : List String := []
  deriving Inhabited

namespace Registry

/-- The registered type of a name. -/
def get? (registry : Registry) (name : String) : Option Ty := registry.entries.lookup name

/-- The names of the entries in order. -/
def names (registry : Registry) : List String := registry.entries.map (·.1)

/-- The type of the name is being built. -/
def inProgress (registry : Registry) (name : String) : Bool := registry.building.contains name

/-- The name is registered or in progress. -/
def contains (registry : Registry) (name : String) : Bool :=
  (registry.get? name).isSome || registry.inProgress name

/-- The name cannot be given to a new type. -/
def isTaken (registry : Registry) (name : String) : Bool :=
  registry.contains name || registry.reserved.contains name

/-- Stores a type: in its place when the name has one, at the end otherwise. -/
def putEntry (name : String) (type : Ty) : List (String × Ty) → List (String × Ty)
  | [] => [(name, type)]
  | (key, old) :: rest =>
      if key == name then (key, type) :: rest else (key, old) :: putEntry name type rest

/-- Stores a type under a name. -/
def store (registry : Registry) (name : String) (type : Ty) : Registry :=
  { registry with entries := putEntry name type registry.entries }

/-- Starts the building of a name's type. -/
def start (registry : Registry) (name : String) : Registry :=
  { registry with building := name :: registry.building }

/-- Ends the building of a name's type. -/
def stop (registry : Registry) (name : String) : Registry :=
  { registry with building := registry.building.filter (· != name) }

/-- Begins a registration: the type that the name stands for already, or the
registry with the name in progress.  A name in progress stands for a reference to
itself. -/
def enter (registry : Registry) (name : String) : Ty ⊕ Registry :=
  match registry.get? name with
  | some type => .inl type
  | none =>
      if registry.inProgress name then .inl (.reference name) else .inr (registry.start name)

/-- Ends a registration with the type that was built, or without one. -/
def leave (registry : Registry) (name : String) (built : Option Ty) : Registry :=
  match built with
  | some type => (registry.stop name).store name type
  | none => registry.stop name

/-- Keeps names from being given to new types. -/
def reserve (registry : Registry) (names : List String) : Registry :=
  { registry with reserved := registry.reserved ++ names }

/-- A name with a number. -/
def numbered (base : String) (n : Nat) : String := base ++ "_" ++ toString n

/-- The first of `base_n`, `base_(n+1)`, ... that is not taken, among as many as
the last argument says. -/
def firstFree (registry : Registry) (base : String) (n : Nat) : Nat → String
  | 0 => numbered base n
  | bound + 1 =>
      if registry.isTaken (numbered base n) then firstFree registry base (n + 1) bound
      else numbered base n

/-- The number of names that can be taken. -/
def nameCount (registry : Registry) : Nat :=
  registry.entries.length + registry.building.length + registry.reserved.length

/-- The name itself, or the first free numbered one from 2 on. -/
def uniqueName (registry : Registry) (base : String) : String :=
  if registry.isTaken base then registry.firstFree base 2 registry.nameCount else base

/-- The number of entries, to come back to later. -/
def checkpoint (registry : Registry) : Nat := registry.entries.length

/-- The number of entries that a mark keeps; a negative mark counts from the end. -/
def kept (registry : Registry) (mark : Int) : Nat :=
  if mark < 0 then (registry.entries.length + mark).toNat else mark.toNat

/-- The names of the entries beyond a mark. -/
def beyond (registry : Registry) (mark : Int) : List String :=
  registry.names.drop (registry.kept mark)

/-- Drops the entries beyond a mark. -/
def rollback (registry : Registry) (mark : Int) : Registry :=
  { registry with entries := registry.entries.take (registry.kept mark) }

/-- Follows references with the names met so far; the last argument bounds their
number. -/
def follow (registry : Registry) (seen : List String) : Nat → Ty → Ty
  | bound + 1, .reference name =>
      if seen.contains name then .reference name
      else match registry.get? name with
        | some target => follow registry (name :: seen) bound target
        | none => .reference name
  | _, type => type

/-- The type at the end of a chain of references; a reference remains when its
name is not registered or when the chain returns to it. -/
def resolve (registry : Registry) (type : Ty) : Ty :=
  registry.follow [] (registry.entries.length + 1) type

/-- Adds the names that are neither registered nor listed yet. -/
def addMissing (registry : Registry) (missing : List String) : List String → List String
  | [] => missing
  | name :: rest =>
      if (registry.get? name).isSome || missing.contains name then
        addMissing registry missing rest
      else addMissing registry (missing ++ [name]) rest

/-- The names that registered types refer to and that are not registered. -/
def dangling (registry : Registry) : List String :=
  registry.addMissing [] (registry.entries.flatMap fun entry => entry.2.references)

end Registry

end TypedContract
