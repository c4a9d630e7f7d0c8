/-
# TypedContract.Symbol.Basic -- annotated symbols of a source

The symbols of a source are given: types with their fields, and functions with
their parameters, each with its documentation, its position and its annotations.
An annotation is an application of an annotation type to literal expressions; an
annotation type lists the types it derives from.
-/
import TypedContract.Diagnostic
import TypedContract.Json.Access
import TypedContract.Parameter.Kind
import TypedContract.Text.Ranges

namespace TypedContract

set_option autoImplicit false

/-- The type of an annotation: its module, its name and the types it lists as its
bases. -/
structure AnnotationType where
  module : String
  name : String
  bases : List Json := []

namespace AnnotationType

/-- A name within a module. -/
def qualify (module name : String) : String := module ++ "." ++ name

/-- The name of the type with its module. -/
def qualified (type : AnnotationType) : String := qualify type.module type.name

/-- The type is the named one or lists it among its bases. -/
def isSubtypeOf (type : AnnotationType) (module name : String) : Bool :=
  type.qualified == qualify module name
    || type.bases.any (Json.same (.str (qualify module name)))

/-- The first part of the module's name. -/
def topModule (type : AnnotationType) : String :=
  String.ofList ((Text.splitOnChar (· == '.') type.module.toList).headD [])

end AnnotationType

/-- An annotation: its type and the literal expressions of its fields. -/
structure Annotation where
  type : AnnotationType
  fields : List (String × String) := []

namespace Annotation

/-- The literal expression of a field. -/
def field? (tag : Annotation) (name : String) : Option String :=
  tag.fields.lookup name

end Annotation

/-- The declared type of a symbol. -/
structure TypeDescriptor where
  name : Json
  module : Json
  /-- The type belongs to the data that a contract can describe. -/
  isData : Bool
  nilable : Bool

/-- What a symbol is. -/
inductive SymbolKind where
  | type
  | field
  | parameter
  | pathParameter
  deriving DecidableEq, Inhabited

/-- The word for the kind of a symbol. -/
def SymbolKind.word : SymbolKind → String
  | .type => "type"
  | .field => "field"
  | .parameter => "parameter"
  | .pathParameter => "path_parameter"

/-- A symbol apart from its fields. -/
structure SymbolFacts where
  name : Json
  kind : SymbolKind
  type : Option TypeDescriptor := none
  annotations : List Annotation := []
  documentation : Json := .str ""
  location : Option Location := none

/-- A symbol and its fields. -/
inductive Symbol where
  | mk (facts : SymbolFacts) (fields : List (String × Symbol))

namespace Symbol

/-- What is said of the symbol itself. -/
def facts : Symbol → SymbolFacts
  | .mk facts _ => facts

/-- The fields of the symbol. -/
def fields : Symbol → List (String × Symbol)
  | .mk _ fields => fields

/-- The name of the symbol. -/
def name (symbol : Symbol) : Json := symbol.facts.name

/-- The annotations of the symbol. -/
def annotations (symbol : Symbol) : List Annotation := symbol.facts.annotations

end Symbol

/-- A function with its parameters. -/
structure FunctionSymbol where
  operationId : Json
  parameters : List Symbol := []
  pathParameters : List Symbol := []
  location : Option Location := none

/-- The symbols of a source. -/
structure SymbolModel where
  types : List (String × Symbol) := []
  functions : List FunctionSymbol := []

namespace SymbolModel

/-- The type symbol of a name; the name must be able to serve as a key. -/
def typeNamed? (model : SymbolModel) (name : Json) : Except Fault (Option Symbol) := do
  match ← name.key with
  | .str name => return model.types.lookup name
  | _ => return none

/-- The function of an operation; its identifier must be able to serve as a key. -/
def functionFor? (model : SymbolModel) (operationId : Json) :
    Except Fault (Option FunctionSymbol) := do
  let key ← operationId.key
  return model.functions.find? fun function => function.operationId.same key

/-- Adds a function; a later one of the same operation replaces the earlier in its
place, which keeps the identifier. -/
def putFunction (function : FunctionSymbol) : List FunctionSymbol → List FunctionSymbol
  | [] => [function]
  | first :: rest =>
      if first.operationId.same function.operationId then function :: rest
      else first :: putFunction function rest

end SymbolModel

/-! ## Classification -/

namespace Symbol

/-- The module of the annotations that place a parameter. -/
def httpModule : String := "http"

/-- The annotation types that place a parameter, the stronger first. -/
def placements : List (ParameterKind × String) :=
  [(.payload, "Payload"), (.header, "Header"), (.query, "Query")]

/-- The kind of a parameter symbol.  Without a data type it is no part of the
contract; otherwise its `http` annotations place it, and a query parameter is what
no annotation places elsewhere. -/
def classify (symbol : Symbol) : ParameterKind :=
  match symbol.facts.type with
  | none => .other
  | some type =>
      if !type.isData then .other
      else
        let tags := symbol.annotations.filter fun a => a.type.topModule == httpModule
        match placements.find? fun (_, name) =>
            tags.any fun a => a.type.isSubtypeOf httpModule name with
        | some (kind, _) => kind
        | none => .query

end Symbol

end TypedContract
