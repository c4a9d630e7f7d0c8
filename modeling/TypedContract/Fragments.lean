/-
# TypedContract.Fragments -- everything a client is made from

A contract yields its named types in the order of the registry and the signatures
of its operations in the order of the document.  Types are registered first; an
operation that cannot be mapped is left out.
-/
import TypedContract.Name.Distinct
import TypedContract.Name.Operation
import TypedContract.Signature.Builder

namespace TypedContract

set_option autoImplicit false

/-- A named type with the annotations of the type and of its fields. -/
structure TypeDeclaration where
  name : String
  type : Ty
  annotations : List Annotation := []
  fieldAnnotations : List (String × List Annotation) := []

namespace TypeDeclaration

/-- The annotations of a field. -/
def annotationsOf (declaration : TypeDeclaration) (field : String) : List Annotation :=
  (declaration.fieldAnnotations.lookup field).getD []

end TypeDeclaration

/-- The types and operations of a contract. -/
structure Fragments where
  types : List TypeDeclaration
  operations : List Signature
  title : Json
  version : String

namespace Fragments

/-- The declaration of a name. -/
def typeNamed? (fragments : Fragments) (name : String) : Option TypeDeclaration :=
  fragments.types.find? fun declaration => declaration.name == name

/-- The operation of a function name. -/
def operation? (fragments : Fragments) (functionName : String) : Option Signature :=
  fragments.operations.find? fun signature => signature.functionName == functionName

/-- The operation of an identifier. -/
def operationById? (fragments : Fragments) (operationId : Json) : Option Signature :=
  fragments.operations.find? fun signature => signature.operationId.same operationId

/-! ## Declarations -/

/-- Sets the annotations of a field, which may occur more than once. -/
def putAnnotations (field : String) (annotations : List Annotation) :
    List (String × List Annotation) → List (String × List Annotation)
  | [] => [(field, annotations)]
  | (name, old) :: rest =>
      if name == field then (name, annotations) :: rest
      else (name, old) :: putAnnotations field annotations rest

/-- The annotations of fields, from the properties of the schema. -/
def fieldAnnotations (name : String) (properties : Json)
    (found : List (String × List Annotation)) :
    List (Field Ty) → Run (List (String × List Annotation))
  | [] => return found
  | field :: rest => do
      let property ← Run.lift (properties.member field.name)
      if property.isNull then fieldAnnotations name properties found rest
      else
        let annotations ← Example.annotationsFor property (name ++ "." ++ field.name)
        fieldAnnotations name properties
          (if annotations.isEmpty then found else putAnnotations field.name annotations found) rest

/-- The declaration of a registered type. -/
def declaration (schemas : Json) (name : String) (type : Ty) : Run TypeDeclaration := do
  let raw ← Run.lift (schemas.member name)
  if raw.isNull then return { name := name, type := type }
  let fields ← match type with
    | .record _ fields _ => do
        let properties := (← Run.lift (raw.member "properties")).orElse (.object [])
        fieldAnnotations name properties [] fields
    | _ => pure []
  let annotations ← Example.annotationsFor raw name
  return { name := name, type := type, annotations := annotations, fieldAnnotations := fields }

/-! ## Operations -/

/-- The function names of operations, told apart. -/
def functionNames (operations : List Contract.Operation) : Except Fault (List String) := do
  let names ← operations.mapM fun operation => do
    Name.ofOperation operation.method operation.path (← operation.node.value.member "operationId")
  Name.distinct names (operations.map (·.method))

/-- The signatures of the operations that can be mapped. -/
def signatures (builder : SignatureBuilder) :
    List (String × Contract.Operation) → Run (List Signature)
  | [] => return []
  | (name, operation) :: rest => do
      let ⟨path, method, node, shared⟩ := operation
      match ← builder.build name method path node shared with
      | none =>
          Run.note .info .driver
            ("skipped " ++ operation.method.toUpper ++ " " ++ operation.path)
          signatures builder rest
      | some signature => return signature :: (← signatures builder rest)

/-- The types and operations of a contract. -/
def ofContract (document : Node) (configuration : Configuration) : Run Fragments := do
  let translator ← Translator.create document
  translator.components
  let operations ← Run.lift (Contract.operations document)
  let names ← Run.lift (functionNames operations)
  let info := (← Run.lift (document.value.member "info")).orElse (.object [])
  let title := (← Run.lift (info.member? "title")).getD (.str "")
  let version ← Run.lift do ((← info.member? "version").getD (.str "")).plainWithin
  let builder : SignatureBuilder :=
    { document := document, translator := translator, configuration := configuration }
  let built ← signatures builder (names.zip operations)
  -- not earlier: until all signatures are built a name may still be registered
  (← Run.registry).dangling.forM fun name => Run.report .danglingReference [name]
  let types ← (← Run.registry).entries.mapM fun (name, type) =>
    declaration translator.schemas.value name type
  let count := (← get).diagnostics.length
  Run.note .info .driver
    ("translated " ++ toString types.length ++ " types and " ++ toString built.length ++ " of "
      ++ toString operations.length ++ " operations (" ++ toString count ++ " diagnostics)")
  return { types := types, operations := built, title := title, version := version }

end Fragments

end TypedContract
