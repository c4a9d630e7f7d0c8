/-
# TypedContract.Client.View -- what the text of a client shows

Every type and operation as the texts that make up its declaration.
-/
import TypedContract.Client.TypeText
import TypedContract.Fragments

namespace TypedContract.Client

set_option autoImplicit false

/-- A field of a record. -/
structure FieldView where
  identifier : String
  annotations : String
  default : Option String
  description : String

/-- The declaration of a type: a record or an alias. -/
inductive TypeBody where
  | record (fields : List FieldView) (description : String)
  | alias (text : String)

/-- A named type. -/
structure TypeView where
  name : String
  annotations : List String
  body : TypeBody

/-- A parameter of a method. -/
structure ParameterView where
  identifier : String
  name : String
  kind : ParameterKind
  annotations : String
  required : Bool
  default : String
  description : String

/-- A method. -/
structure OperationView where
  name : String
  method : String
  path : String
  parameters : List ParameterView
  mediaType : Json
  returnType : String
  description : String

/-- A whole client. -/
structure View where
  title : Json
  version : String
  clientName : String
  types : List TypeView
  operations : List OperationView

namespace OperationView

/-- The parameters of a kind. -/
def ofKind (operation : OperationView) (kind : ParameterKind) : List ParameterView :=
  operation.parameters.filter (·.kind == kind)

/-- The payload, if there is one. -/
def payload? (operation : OperationView) : Option ParameterView :=
  operation.parameters.find? (·.kind == .payload)

end OperationView

/-- The view of a field of a declaration. -/
def fieldView (declaration : TypeDeclaration) (field : Field Ty) : FieldView :=
  let identifier := Name.identifier (Name.display field.name)
  let text := typeText false field.type
  {
    identifier := identifier
    annotations :=
      annotated (if field.required then text else leftOut text)
        (declaration.annotationsOf field.name)
    default := fieldDefault field.name identifier field.required field.default field.readOnly
    description := field.description
  }

/-- The view of a declaration. -/
def typeView (declaration : TypeDeclaration) : TypeView where
  name := declaration.name
  annotations := declaration.annotations.map annotationText
  body := match declaration.type with
    | .record _ fields description => .record (fields.map (fieldView declaration)) description
    | type => .alias (typeText true type)

/-- The view of a parameter. -/
def parameterView (parameter : Parameter) : ParameterView :=
  let text := typeText false parameter.type
  {
    identifier := parameter.identifier
    name := parameter.name
    kind := parameter.kind
    annotations :=
      annotated (if parameter.required then text else leftOut text) parameter.annotations
    required := parameter.required
    default := parameter.default.written
    description := parameter.description
  }

/-- The view of a signature. -/
def operationView (signature : Signature) : OperationView where
  name := signature.functionName
  method := signature.method
  path := signature.path
  parameters := signature.parameters.map parameterView
  mediaType := ((signature.parameters.find? (·.kind == .payload)).map (·.mediaType)).getD .null
  returnType := optionalTypeText signature.returnType
  description := signature.description

/-- The view of a client. -/
def view (fragments : Fragments) (configuration : Configuration) : View where
  title := fragments.title
  version := fragments.version
  clientName := configuration.clientName
  types := fragments.types.map typeView
  operations := fragments.operations.map operationView

end TypedContract.Client
