/-
# TypedContract.Signature.Basic -- signatures of operations

A signature lists the parameters of a client function, those without a default
first.  The order within each group is that of the contract.
-/
import TypedContract.Fault
import TypedContract.Parameter.Kind
import TypedContract.Registry.Basic
import TypedContract.Symbol.Basic
import TypedContract.Ty.Basic

namespace TypedContract

set_option autoImplicit false

/-- A parameter of a client function. -/
structure Parameter where
  name : String
  /-- The canonical name, by which duplicates are found. -/
  display : String
  /-- The legal identifier made from the canonical name. -/
  identifier : String
  kind : ParameterKind
  required : Bool
  type : Ty
  default : Json := .null
  description : String := ""
  mediaType : Json := .null
  annotations : List Annotation := []

/-- The signature of a client function. -/
structure Signature where
  functionName : String
  operationId : Json
  method : String
  path : String
  parameters : List Parameter
  returnType : Option Ty
  description : String

namespace Signature

/-- The parameters without a default. -/
def required (signature : Signature) : List Parameter := signature.parameters.filter (·.required)

/-- The parameters with a default. -/
def defaultable (signature : Signature) : List Parameter :=
  signature.parameters.filter (!·.required)

/-- The parameter of a canonical name. -/
def parameter? (signature : Signature) (display : String) : Option Parameter :=
  signature.parameters.find? fun p => p.display == display

end Signature

/-! ## Types that fit into a path or a header -/

namespace Registry

/-- Following references and unions from the type only meets scalars and nothing;
the first argument bounds the depth. -/
def isScalarWithin (registry : Registry) : Nat → Ty → Except Fault Bool
  | 0, _ => .error .endless
  | bound + 1, type =>
      match registry.resolve type with
      | .primitive p => .ok p.scalar.isScalar
      | .union _ members => members.allM (isScalarWithin registry bound)
      | _ => .ok false

/-- The number of constructors of all registered types. -/
def weight (registry : Registry) : Nat :=
  registry.entries.foldl (fun total entry => total + entry.2.weight) 0

/-- Following references and unions from the type only meets scalars and nothing.
A union that is reached again from itself has no end to follow. -/
def isScalar (registry : Registry) (type : Ty) : Except Fault Bool :=
  registry.isScalarWithin (registry.weight + type.weight + 1) type

/-- The type is scalar or a list of a scalar type. -/
def isHeaderType (registry : Registry) (type : Ty) : Except Fault Bool :=
  match registry.resolve type with
  | .array element => registry.isScalar element
  | resolved => registry.isScalar resolved

end Registry

end TypedContract
