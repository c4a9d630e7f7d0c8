/-
# TypedContract.Ty.Basic -- structural types

The types that a client uses for the values of a contract.  Named types live in
the registry and everything else refers to them by `Ty.reference`; a record
without a name stands where it is used.  Equality (`Ty.same`) is structural:
defaults and listed values are compared as values, and the reason of an unknown
type does not count.
-/
import TypedContract.Json.Basic

namespace TypedContract

set_option autoImplicit false

/-- The kinds of primitive values. -/
inductive Scalar where
  | string
  | bytes
  | int64
  | int32
  | double
  | float
  | bool
  | nil
  | other (name : String)
  deriving DecidableEq

namespace Scalar

/-- The name of a kind. -/
def name : Scalar → String
  | .string => "string"
  | .bytes => "bytes"
  | .int64 => "int64"
  | .int32 => "int32"
  | .double => "double"
  | .float => "float"
  | .bool => "bool"
  | .nil => "nil"
  | .other name => name

/-- The kind of a name. -/
def ofName : String → Scalar
  | "string" => .string
  | "bytes" => .bytes
  | "int64" => .int64
  | "int32" => .int32
  | "double" => .double
  | "float" => .float
  | "bool" => .bool
  | "nil" => .nil
  | name => .other name

/-- The kind can be written into a path segment or a header. -/
def isScalar : Scalar → Bool
  | .other _ => false
  | _ => true

end Scalar

/-- A primitive type: its kind, the format given in the contract, its range and
the values it is restricted to. -/
structure Primitive where
  scalar : Scalar
  format : Json := .null
  minimum : Option Int := none
  maximum : Option Int := none
  enum : Option (List Json) := none

namespace Primitive

/-- The primitive of a kind, with the range of 32-bit integers where it applies. -/
def of (scalar : Scalar) (format : Json) : Primitive :=
  match scalar with
  | .int32 => ⟨.int32, format, some (-2147483648), some 2147483647, none⟩
  | scalar => ⟨scalar, format, none, none, none⟩

/-- Equality of primitives. -/
def same (a b : Primitive) : Bool :=
  a.scalar == b.scalar && a.format.same b.format && a.minimum == b.minimum
    && a.maximum == b.maximum
    && match a.enum, b.enum with
      | none, none => true
      | some xs, some ys => Json.sameItems xs ys
      | _, _ => false

end Primitive

/-- A field of a record whose types are `τ`. -/
structure Field (τ : Type) where
  name : String
  type : τ
  required : Bool := false
  default : Json := .null
  description : String := ""
  readOnly : Bool := false

/-- A structural type. -/
inductive Ty where
  | primitive (value : Primitive)
  | array (element : Ty)
  /-- An open mapping from texts. -/
  | map (value : Ty)
  | record (name : Option String) (fields : List (Field Ty)) (description : String)
  | union (name : Option String) (members : List Ty)
  | reference (name : String)
  | unknown (reason : String)

namespace Ty

instance : Inhabited Ty := ⟨.unknown ""⟩

/-- The type of nothing. -/
def nil : Ty := .primitive (.of .nil .null)

/-- The type is the primitive of nothing. -/
def isNil : Ty → Bool
  | .primitive p => p.scalar == .nil
  | _ => false

/-- The type is a record. -/
def isRecord : Ty → Bool
  | .record _ _ _ => true
  | _ => false

mutual

/-- The type lists nothing among its values without a look at the registry. -/
def isNilable : Ty → Bool
  | .primitive p => p.scalar == .nil
  | .union _ members => anyNilable members
  | _ => false

/-- One of the types lists nothing among its values. -/
def anyNilable : List Ty → Bool
  | [] => false
  | member :: rest => isNilable member || anyNilable rest

end

mutual

/-- Structural equality. -/
def same : Ty → Ty → Bool
  | .primitive a, .primitive b => a.same b
  | .array a, .array b => same a b
  | .map a, .map b => same a b
  | .record name fields description, .record name' fields' description' =>
      name == name' && sameFields fields fields' && description == description'
  | .union name members, .union name' members' =>
      sameMembers members members' && name == name'
  | .reference name, .reference name' => name == name'
  | .unknown _, .unknown _ => true
  | _, _ => false

/-- Structural equality of lists of types. -/
def sameMembers : List Ty → List Ty → Bool
  | [], [] => true
  | a :: as, b :: bs => same a b && sameMembers as bs
  | _, _ => false

/-- Structural equality of lists of fields. -/
def sameFields : List (Field Ty) → List (Field Ty) → Bool
  | [], [] => true
  | ⟨name, type, required, default, description, readOnly⟩ :: as, b :: bs =>
      name == b.name && same type b.type && required == b.required
        && default.same b.default && description == b.description && readOnly == b.readOnly
        && sameFields as bs
  | _, _ => false

end

mutual

/-- The names that a type refers to, from left to right. -/
def references : Ty → List String
  | .reference name => [name]
  | .array element => references element
  | .map value => references value
  | .record _ fields _ => fieldReferences fields
  | .union _ members => memberReferences members
  | _ => []

/-- The names that the members refer to. -/
def memberReferences : List Ty → List String
  | [] => []
  | member :: rest => references member ++ memberReferences rest

/-- The names that the fields refer to. -/
def fieldReferences : List (Field Ty) → List String
  | [] => []
  | ⟨_, type, _, _, _, _⟩ :: rest => references type ++ fieldReferences rest

end

mutual

/-- The number of constructors of a type. -/
def weight : Ty → Nat
  | .array element => weight element + 1
  | .map value => weight value + 1
  | .record _ fields _ => fieldWeight fields + 1
  | .union _ members => memberWeight members + 1
  | _ => 1

/-- The number of constructors of the members. -/
def memberWeight : List Ty → Nat
  | [] => 0
  | member :: rest => weight member + memberWeight rest

/-- The number of constructors of the fields. -/
def fieldWeight : List (Field Ty) → Nat
  | [] => 0
  | ⟨_, type, _, _, _, _⟩ :: rest => weight type + fieldWeight rest

end

/-- The first field of a name. -/
def fieldNamed? (name : String) : Ty → Option (Field Ty)
  | .record _ fields _ => fields.find? fun field => field.name == name
  | _ => none

end Ty

end TypedContract
