/-
# TypedContract.Diagnostic -- what went wrong without stopping the run

Every step adds to one list of diagnostics.  A code fixes the severity and the
wording; the arguments of a diagnostic are kept as texts and fill the wording.
Errors are reported before warnings, each in the order in which they were added.
-/
import TypedContract.Literal.Json

namespace TypedContract

set_option autoImplicit false

/-- How serious a diagnostic is. -/
inductive Severity where
  | error
  | warning
  deriving DecidableEq, Inhabited

/-- The word for a severity. -/
def Severity.word : Severity → String
  | .error => "error"
  | .warning => "warning"

/-- A position in the source of the symbols. -/
structure Location where
  file : Json
  line : Int := 0
  column : Int := 0

namespace Location

/-- The position as `file:line:column`. -/
def text (location : Location) : String :=
  location.file.plain ++ ":" ++ toString location.line ++ ":" ++ toString location.column

/-- Every integer of the position keeps to the limit of digits. -/
def isWithinDigits (location : Location) : Bool :=
  (Literal.ofJson location.file).isWithinDigits && Literal.withinDigits location.line
    && Literal.withinDigits location.column

end Location

namespace Diagnostic

/-- What a diagnostic is about. -/
inductive Code where
  | unsupportedSchema
  | unsupportedCombinator
  | unresolvedReference
  | typeNameConflict
  | danglingReference
  | invalidPathParameter
  | invalidHeaderParameter
  | unresolvedParameter
  | signatureFailed
  | unsafeDefault
  | malformedExampleLiteral
  | invalidMediaTypeCount
  | conflictingExampleAnnotations
  deriving DecidableEq, Inhabited

namespace Code

/-- Every code. -/
def all : List Code := [
  .unsupportedSchema, .unsupportedCombinator, .unresolvedReference, .typeNameConflict,
  .danglingReference, .invalidPathParameter, .invalidHeaderParameter, .unresolvedParameter,
  .signatureFailed, .unsafeDefault, .malformedExampleLiteral, .invalidMediaTypeCount,
  .conflictingExampleAnnotations
]

/-- The stable name of a code. -/
def name : Code → String
  | .unsupportedSchema => "OAS_MAP_100"
  | .unsupportedCombinator => "OAS_MAP_101"
  | .unresolvedReference => "OAS_MAP_102"
  | .typeNameConflict => "OAS_MAP_103"
  | .danglingReference => "OAS_MAP_104"
  | .invalidPathParameter => "OAS_MAP_200"
  | .invalidHeaderParameter => "OAS_MAP_201"
  | .unresolvedParameter => "OAS_MAP_202"
  | .signatureFailed => "OAS_MAP_203"
  | .unsafeDefault => "OAS_MAP_204"
  | .malformedExampleLiteral => "OAS_MAP_300"
  | .invalidMediaTypeCount => "OAS_MAP_301"
  | .conflictingExampleAnnotations => "OAS_MAP_302"

/-- The code of a stable name. -/
def ofName? (name : String) : Option Code := all.find? fun code => code.name == name

/-- The severity of a code. -/
def severity : Code → Severity
  | .unsupportedSchema => .warning
  | .unsupportedCombinator => .warning
  | .unresolvedReference => .warning
  | .unsafeDefault => .warning
  | _ => .error

/-- The number of arguments that the wording needs. -/
def arity : Code → Nat
  | .unsupportedSchema => 2
  | .malformedExampleLiteral => 4
  | _ => 1

/-- The wording of a code around its arguments. -/
def wording (code : Code) (args : List String) : String :=
  let arg (n : Nat) : String := args.getD n ""
  match code with
  | .unsupportedSchema =>
      "unsupported schema at '" ++ arg 0 ++ "': " ++ arg 1 ++ "; mapped to an unknown type"
  | .unsupportedCombinator =>
      "cannot combine the 'allOf' members of '" ++ arg 0 ++ "'; mapped to an unknown type"
  | .unresolvedReference =>
      "reference '" ++ arg 0 ++ "' does not point to a component schema"
  | .typeNameConflict =>
      "type name '" ++ arg 0 ++ "' is already registered with a different structure"
  | .danglingReference => "type '" ++ arg 0 ++ "' is referenced but never registered"
  | .invalidPathParameter =>
      "path parameter '" ++ arg 0
        ++ "' is invalid: structured types cannot be serialized into a path segment"
  | .invalidHeaderParameter =>
      "header parameter '" ++ arg 0
        ++ "' is invalid: only scalar or list of scalar types are supported"
  | .unresolvedParameter => "parameter reference '" ++ arg 0 ++ "' cannot be resolved"
  | .signatureFailed =>
      "skipped operation '" ++ arg 0 ++ "': its function signature could not be generated"
  | .unsafeDefault =>
      "default value of '" ++ arg 0 ++ "' exceeds the safe integer range and was dropped"
  | .malformedExampleLiteral =>
      "cannot decode the " ++ arg 0 ++ " value of " ++ arg 1 ++ " '" ++ arg 2 ++ "': " ++ arg 3
  | .invalidMediaTypeCount =>
      "examples of request parameter '" ++ arg 0
        ++ "' are dropped: the request body must declare exactly one media type"
  | .conflictingExampleAnnotations =>
      "'" ++ arg 0
        ++ "' carries both an example and an examples annotation; examples are not mapped"

end Code

end Diagnostic

/-- One thing that went wrong. -/
structure Diagnostic where
  code : Diagnostic.Code
  args : List String
  location : Option Location := none

namespace Diagnostic

/-- The severity of the diagnostic. -/
def severity (diagnostic : Diagnostic) : Severity := diagnostic.code.severity

/-- The diagnostic in words. -/
def message (diagnostic : Diagnostic) : String := diagnostic.code.wording diagnostic.args

/-- A diagnostic needs as many arguments as its wording. -/
def make? (code : Code) (args : List String) (location : Option Location) : Option Diagnostic :=
  if args.length < code.arity then none else some ⟨code, args, location⟩

/-- The diagnostic with its location, severity and code. -/
def text (diagnostic : Diagnostic) : String :=
  (match diagnostic.location with
    | some location => location.text ++ ": "
    | none => "")
    ++ diagnostic.severity.word ++ " [" ++ diagnostic.code.name ++ "] " ++ diagnostic.message

/-- The diagnostic is an error. -/
def isError (diagnostic : Diagnostic) : Bool := diagnostic.severity == .error

/-- The errors of a list. -/
def errors (all : List Diagnostic) : List Diagnostic := all.filter isError

/-- The warnings of a list. -/
def warnings (all : List Diagnostic) : List Diagnostic := all.filter (!·.isError)

/-- Errors before warnings, each in their order. -/
def ranked (all : List Diagnostic) : List Diagnostic := errors all ++ warnings all

end Diagnostic

end TypedContract
