/-
# TypedContract.Symbol.Manifest -- symbol models from manifests

A manifest is an object with the sections `annotation_types`, `types` and
`functions`.  A section or list that is missing or counts as absent is empty; a
value of an annotation that is no text is kept as its literal text.
-/
import TypedContract.Literal.Json
import TypedContract.Json.Basic
import TypedContract.Symbol.Basic
import TypedContract.Text.Integer

namespace TypedContract.Manifest

set_option autoImplicit false

/-- The listed bases of annotation types. -/
abbrev Hierarchy := List (String × List Json)

/-- The number of a line or column. -/
def number (value : Json) : Except Fault Int :=
  match value with
  | .int n => .ok n
  | .bool flag => .ok (if flag then 1 else 0)
  | .double .nan => .error .badValue
  | .double d => match d.truncate? with
      | some n => .ok n
      | none => .error .tooLarge
  | .str text => match Text.integer? text with
      | some n => .ok n
      | none => .error .badValue
  | _ => .error .unsuitable

/-- The value of a key, or a default when the key is missing. -/
def memberOr (raw : Json) (name : String) (fallback : Json) : Except Fault Json := do
  return (← raw.member? name).getD fallback

/-- The position of a symbol; the manifest itself stands in for a missing file. -/
def location (raw : Json) (source : String) : Except Fault (Option Location) := do
  let file := (← raw.member "file").orElse (.str source)
  if !file.truthy then return none
  let line ← number (← memberOr raw "line" (.int 0))
  let column ← number (← memberOr raw "column" (.int 0))
  return some ⟨file, line, column⟩

/-- The module and the name of a qualified name, cut at its last point. -/
def cutLast (qualified : String) : String × String :=
  let parts := Text.splitOnChar (· == '.') qualified.toList
  (String.ofList (Text.joinWith ['.'] parts.dropLast), String.ofList (parts.getLastD []))

/-- The literal expression of an annotation's field. -/
def expression (value : Json) : Except Fault String :=
  match value with
  | .str text => .ok text
  | value => value.writtenWithin

/-- An annotation of the manifest. -/
def annotationOf (hierarchy : Hierarchy) (raw : Json) : Except Fault Annotation := do
  let qualified ← match ← raw.required "type" with
    | .str name => pure name
    | _ => throw .noMember
  let (module, name) := cutLast qualified
  let fields ← ((← raw.entries).filter (·.1 != "type")).mapM fun (key, value) => do
    return (key, ← expression value)
  return ⟨⟨module, name, (hierarchy.lookup qualified).getD []⟩, fields⟩

/-- The declared type of a symbol. -/
def descriptor (raw : Json) : Except Fault (Option TypeDescriptor) := do
  let type ← raw.member "type"
  if type.isNull then return none
  return some {
    name := ← memberOr type "name" (.str "Any")
    module := ← memberOr type "module" (.str "builtins")
    isData := (← memberOr type "data" (.bool true)).truthy
    nilable := (← memberOr type "nilable" (.bool false)).truthy
  }

/-- A symbol without its fields. -/
def symbolFacts (hierarchy : Hierarchy) (source : String) (kind : SymbolKind) (name raw : Json) :
    Except Fault SymbolFacts := do
  let type ← descriptor raw
  let annotations ← ((← raw.member "annotations").orElse (.list [])).elements
  let annotations ← annotations.mapM (annotationOf hierarchy)
  let documentation ← memberOr raw "doc" (.str "")
  return {
    name := name
    kind := kind
    type := type
    annotations := annotations
    documentation := documentation.orElse (.str "")
    location := ← location raw source
  }

/-- A symbol; the first argument bounds the depth of its fields. -/
def symbolWithin (hierarchy : Hierarchy) (source : String) :
    Nat → SymbolKind → Json → Json → Except Fault Symbol
  | 0, _, _, _ => .error .endless
  | bound + 1, kind, name, raw => do
      let facts ← symbolFacts hierarchy source kind name raw
      let fields ← ((← raw.member "fields").orElse (.object [])).entries
      let fields ← fields.mapM fun (field, raw) => do
        let raw := raw.orElse (.object [])
        return (field, ← symbolWithin hierarchy source bound .field (.str field) raw)
      return .mk facts fields

/-- A symbol of the manifest. -/
def symbol (hierarchy : Hierarchy) (source : String) (kind : SymbolKind) (name raw : Json) :
    Except Fault Symbol :=
  symbolWithin hierarchy source (raw.depth + 1) kind name raw

/-- The parameters in a list of the manifest. -/
def parameters (hierarchy : Hierarchy) (source : String) (kind : SymbolKind) (raw : Json) :
    Except Fault (List Symbol) := do
  (← (raw.orElse (.list [])).elements).mapM fun parameter => do
    symbol hierarchy source kind (← parameter.required "name") parameter

/-- A function of the manifest. -/
def function (hierarchy : Hierarchy) (source : String) (raw : Json) :
    Except Fault FunctionSymbol := do
  let operationId ← raw.required "operation_id"
  let named ← parameters hierarchy source .parameter (← raw.member "parameters")
  let placed ← parameters hierarchy source .pathParameter (← raw.member "path_parameters")
  return {
    operationId := operationId
    parameters := named
    pathParameters := placed
    location := ← location raw source
  }

/-- The symbol model of a manifest; `source` is the file the manifest comes from. -/
def model (manifest : Json) (source : String) : Except Fault SymbolModel := do
  let hierarchy ← ((← manifest.member "annotation_types").orElse (.object [])).entries
  let hierarchy ← hierarchy.mapM fun (name, bases) => do
    return (name, ← (bases.orElse (.list [])).elements)
  let types ← ((← manifest.member "types").orElse (.object [])).entries
  let types ← types.mapM fun (name, raw) => do
    return (name, ← symbol hierarchy source .type (.str name) (raw.orElse (.object [])))
  let functions ← ((← manifest.member "functions").orElse (.list [])).elements
  let functions ← functions.mapM (function hierarchy source)
  -- functions are told apart by their identifiers, so each must be able to serve as a key
  let _ ← functions.mapM fun function => function.operationId.key
  return ⟨types, functions.foldl (fun known f => SymbolModel.putFunction f known) []⟩

end TypedContract.Manifest
