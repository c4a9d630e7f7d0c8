/-
# TypedContract.Signature.Builder -- signatures from operations

The path, query and header parameters of an operation, its request body and the
headers of the body's encoding become one list of parameters.  A parameter of the
operation replaces the one of its path with the same name and location; of several
parameters with one canonical name the first stays.  A parameter that cannot be
mapped fails the whole operation, and the types registered for it are dropped.
-/
import TypedContract.Configuration
import TypedContract.Example.Basic
import TypedContract.Json.Basic
import TypedContract.Json.Node
import TypedContract.Json.Pointer
import TypedContract.Name.Snake
import TypedContract.Signature.Basic
import TypedContract.Text.Integer
import TypedContract.Translation

namespace TypedContract

set_option autoImplicit false

/-- A step that may find that an operation cannot be mapped. -/
abbrev Mapping (α : Type) := OptionT Run α

namespace Mapping

/-- Lifts a result that changes no state. -/
def lift {α : Type} (result : Except Fault α) : Mapping α := OptionT.lift (Run.lift result)

/-- Reports why an operation cannot be mapped and gives it up. -/
def giveUp {α : Type} (code : Diagnostic.Code) (args : List String) : Mapping α := do
  OptionT.lift (Run.report code args)
  failure

end Mapping

/-- What the signatures of a document are built with. -/
structure SignatureBuilder where
  document : Node
  translator : Translator
  configuration : Configuration := {}

namespace SignatureBuilder

/-! ## Defaults and media types -/

/-- The first integer that a double cannot tell from its neighbour, `2^53`. -/
def unsafeBound : Nat := 9007199254740992

/-- An integer too large to survive a double. -/
def isUnsafe : Json → Bool
  | .int n => unsafeBound ≤ n.natAbs
  | _ => false

/-- The media types in order of preference. -/
def preferredMediaTypes : List String :=
  ["application/json", "text/json", "application/x-www-form-urlencoded", "multipart/form-data"]

/-- The first of some names that is held. -/
def firstHeld? (content : Json) : List String → Except Fault (Option Json)
  | [] => .ok none
  | name :: rest => do
      if ← content.holds name then return some (.str name)
      firstHeld? content rest

/-- The media type whose schema is used: a preferred one, else the first, `null`
when there is none. -/
def selectMediaType (content : Json) : Except Fault Json := do
  match ← firstHeld? content preferredMediaTypes with
  | some name => return name
  | none => return (← content.elements).headD .null

/-- The schema of a media type. -/
def mediaSchema (content : Node) (mediaType : Json) : Except Fault Node := do
  (← content.index mediaType).member "schema"

/-! ## References -/

/-- Follows references from a part of the document; `seen` holds those followed so
far and the last argument bounds their number. -/
def resolveWithin (document : Node) (seen : List Json) : Nat → Node → Except Fault Node
  | 0, _ => .error .endless
  | bound + 1, raw => do
      if !(← raw.value.holds "$ref") then return raw
      let ref ← (← raw.required "$ref").value.key
      if seen.any (Json.same ref) then throw (.missingKey ref.plain)
      resolveWithin document (ref :: seen) bound (← Pointer.resolve document ref)

/-- The part without a reference at the end of a chain of references. -/
def resolve (builder : SignatureBuilder) (raw : Node) : Except Fault Node :=
  resolveWithin builder.document [] (builder.document.value.weight + 2) raw

/-- The part at the end of a chain of references; a chain that leads nowhere fails
the operation. -/
def resolved (builder : SignatureBuilder) (raw : Node) : Mapping Node :=
  match builder.resolve raw with
  | .ok node => pure node
  | .error (.missingKey _) => do
      let ref ← Mapping.lift (raw.value.member "$ref")
      Mapping.giveUp .unresolvedParameter [ref.plain]
  | .error fault => Mapping.lift (.error fault)

/-! ## Parameters -/

/-- Two parameters have the same name and location. -/
def sameKey (a b : Node) : Except Fault Bool := do
  let name ← a.value.member "name"
  let place ← a.value.member "in"
  return (← b.value.member "name").same name && (← b.value.member "in").same place

/-- Puts a parameter in the place of an earlier one of its name and location, or at
the end. -/
def override (parameter : Node) : List Node → Except Fault (List Node)
  | [] => .ok [parameter]
  | first :: rest => do
      if ← sameKey parameter first then return parameter :: rest
      return first :: (← override parameter rest)

/-- The schema of a parameter: its own, or that of its content. -/
def schemaOf (raw : Node) : Except Fault Node := do
  let schema ← raw.member "schema"
  let content ← raw.member "content"
  if schema.value.isNull && content.value.truthy then
    mediaSchema content (← selectMediaType content.value)
  else return schema

/-- The type and the default of a parameter with a name. -/
def typeAndDefault (builder : SignatureBuilder) (schema : Node) (name context : String) :
    Run (Ty × Json) := do
  if schema.value.isNull then return (.primitive (.of .string .null), .null)
  let type ← builder.translator.translateNode schema (context ++ Name.pascal name)
  let default ← Run.lift (schema.value.member "default")
  if isUnsafe default then
    Run.report .unsafeDefault [name]
    return (type, .null)
  return (type, default)

/-- Checks that the type of a parameter fits its kind. -/
def checkType (kind : ParameterKind) (type : Ty) (name : String) : Mapping Unit := do
  let registry ← OptionT.lift Run.registry
  match kind with
  | .path =>
      if !(← Mapping.lift (registry.isScalar type)) then
        Mapping.giveUp .invalidPathParameter [name]
  | .header =>
      if !(← Mapping.lift (registry.isHeaderType type)) then
        Mapping.giveUp .invalidHeaderParameter [name]
  | _ => pure ()

/-- A parameter of the contract. -/
def parameter (builder : SignatureBuilder) (raw : Node) (kind : ParameterKind)
    (context : String) : Mapping Parameter := do
  let named ← Mapping.lift (raw.value.required "name")
  let schema ← Mapping.lift (schemaOf raw)
  let name ← Mapping.lift named.text
  let (type, default) ← OptionT.lift (builder.typeAndDefault schema name context)
  checkType kind type name
  let flag ← Mapping.lift (raw.value.member "required")
  let optional := builder.configuration.treatNilableAsOptional && type.isNilable
  let display := Name.display name
  let description ← Mapping.lift do
    Schema.strip ((← raw.value.member "description").orElse (.str ""))
  return {
    name := name
    display := display
    identifier := Name.identifier display
    kind := kind
    required := kind == .path || (flag.truthy && default.isNull && !optional)
    type := type
    default := default
    description := description
    annotations := ← OptionT.lift (Example.annotationsFor raw.value name)
  }

/-- The resolved parameters, those of the operation over those of its path. -/
def declared (builder : SignatureBuilder) (kept : List Node) : List Node → Mapping (List Node)
  | [] => return kept
  | raw :: rest => do
      let parameter ← builder.resolved raw
      declared builder (← Mapping.lift (overrideIn parameter kept)) rest
where
  /-- Places a parameter; its own members are looked at even when it is the first. -/
  overrideIn (parameter : Node) (kept : List Node) : Except Fault (List Node) := do
    let _ ← parameter.value.member "name"
    override parameter kept

/-- The kind of a parameter of the contract. -/
def kindOf (raw : Node) : Except Fault ParameterKind := do
  match ← ((← raw.value.member? "in").getD (.str "")).key with
  | .str place => return .ofLocation place
  | _ => return .other

/-- Notes that a parameter is left out; a line that would have to name an integer
beyond the limit of digits is not written. -/
def noteSkipped (place name : Json) : Run Unit :=
  match place.plainWithin, name.plainWithin with
  | .ok place, .ok name =>
      Run.note .debug .parameters ("skipped " ++ place ++ " parameter " ++ name)
  | _, _ => return ()

/-- The parameters of the known locations. -/
def placed (builder : SignatureBuilder) (context : String) : List Node → Mapping (List Parameter)
  | [] => return []
  | raw :: rest => do
      match ← Mapping.lift (kindOf raw) with
      | .other => do
          let place ← Mapping.lift (raw.value.member "in")
          let name ← Mapping.lift (raw.value.member "name")
          OptionT.lift (noteSkipped place name)
          placed builder context rest
      | kind => do
          let first ← builder.parameter raw kind context
          return first :: (← placed builder context rest)

/-- The declared parameters of an operation and its path. -/
def declaredParameters (builder : SignatureBuilder) (operation shared : Node)
    (context : String) : Mapping (List Parameter) := do
  let shared ← Mapping.lift (shared.orElse (.list [])).elements
  let own ← Mapping.lift do ((← operation.member "parameters").orElse (.list [])).elements
  builder.placed context (← builder.declared [] (shared ++ own))

/-! ## Request bodies -/

/-- A header of an encoding as a header parameter of the given name. -/
def namedHeader (header : Node) (name : String) : Except Fault Node :=
  match header.value with
  | .object entries =>
      .ok { header with
        value := .object (Json.put "in" (.str "header") (Json.put "name" (.str name) entries)) }
  | _ => .error .unsuitable

/-- The parameters of headers. -/
def headerParameters (builder : SignatureBuilder) (context : String) :
    List (String × Node) → Mapping (List Parameter)
  | [] => return []
  | (name, raw) :: rest => do
      let header ← builder.resolved raw
      let first ← builder.parameter (← Mapping.lift (namedHeader header name)) .header context
      return first :: (← headerParameters builder context rest)

/-- The parameters of the headers of encodings. -/
def encodingParameters (builder : SignatureBuilder) (context : String) :
    List (String × Node) → Mapping (List Parameter)
  | [] => return []
  | (_, encoding) :: rest => do
      let headers ← Mapping.lift do ((← encoding.member "headers").orElse (.object [])).entries
      let first ← builder.headerParameters context headers
      return first ++ (← encodingParameters builder context rest)

/-- The parameters of the headers in the encodings of media types. -/
def mediaParameters (builder : SignatureBuilder) (context : String) :
    List (String × Node) → Mapping (List Parameter)
  | [] => return []
  | (_, media) :: rest => do
      let encodings ← Mapping.lift do ((← media.member "encoding").orElse (.object [])).entries
      let first ← builder.encodingParameters context encodings
      return first ++ (← mediaParameters builder context rest)

/-- The canonical name of the payload. -/
def payloadName : String := "payload"

/-- The payload of a request body with its content. -/
def payload (builder : SignatureBuilder) (body content : Node) (context : String) :
    Run Parameter := do
  let mediaType ← Run.lift (selectMediaType content.value)
  let schema ← if mediaType.truthy then Run.lift (mediaSchema content mediaType)
    else pure (.free .null)
  let type ← builder.translator.translateNode schema (context ++ "Request")
  let description ← Run.lift do
    Schema.strip ((← body.value.member "description").orElse (.str ""))
  let annotations ← if mediaType.truthy then do
      let media ← Run.lift (content.index mediaType)
      Example.annotationsFor media.value payloadName
    else pure []
  return {
    name := payloadName
    display := payloadName
    identifier := payloadName
    kind := .payload
    required := true
    type := type
    description := description
    mediaType := mediaType
    annotations := annotations
  }

/-- The parameters of the request body of an operation. -/
def bodyParameters (builder : SignatureBuilder) (operation : Node) (context : String) :
    Mapping (List Parameter) := do
  let raw ← Mapping.lift (operation.member "requestBody")
  if !raw.value.truthy then return []
  let body ← builder.resolved raw
  let content := (← Mapping.lift (body.member "content")).orElse (.object [])
  let first ← OptionT.lift (builder.payload body content context)
  return first :: (← builder.mediaParameters context (← Mapping.lift content.entries))

/-! ## Responses -/

/-- A status text that is all digits must be an integer. -/
def checkStatus (status : String) : Except Fault Unit :=
  let chars := status.toList
  if !chars.isEmpty && chars.all Text.isDigit && (Text.integer? status).isNone then
    .error .badValue
  else .ok ()

/-- The schema of a response, if it has one. -/
def responseSchema? (response : Node) : Except Fault (Option Node) := do
  let content := (← response.member "content").orElse (.object [])
  let mediaType ← selectMediaType content.value
  if !mediaType.truthy then return none
  let schema ← mediaSchema content mediaType
  return if schema.value.isNull then none else some schema

/-- The type of the first successful response with a schema. -/
def returnTypeOf (builder : SignatureBuilder) (responses : Node) (context : String) :
    List String → Run (Option Ty)
  | [] => return none
  | status :: rest => do
      if !"2".toList.isPrefixOf status.toList then
        return ← returnTypeOf builder responses context rest
      let response ← Run.lift (responses.member status)
      Run.lift (checkStatus status)
      match builder.resolve (response.orElse (.object [])) with
      | .error (.missingKey _) => returnTypeOf builder responses context rest
      | .error fault => throw fault
      | .ok response =>
          match ← Run.lift (responseSchema? response) with
          | none => returnTypeOf builder responses context rest
          | some schema =>
              some <$> builder.translator.translateNode schema (context ++ "Response")

/-- The type of the successful response of an operation; statuses are tried in the
order of their texts. -/
def returnType (builder : SignatureBuilder) (operation : Node) (context : String) :
    Run (Option Ty) := do
  let responses := (← Run.lift (operation.member "responses")).orElse (.object [])
  let statuses ← Run.lift do (← responses.value.elements).mapM Json.plainWithin
  builder.returnTypeOf responses context (statuses.mergeSort fun a b => !(b < a))

/-! ## Signatures -/

/-- Keeps the first parameter of each canonical name. -/
def distinct (functionName : String) (seen : List String) :
    List Parameter → Run (List Parameter)
  | [] => return []
  | parameter :: rest => do
      if seen.contains parameter.display then
        Run.note .debug .parameters
          (functionName ++ ": dropped duplicate parameter " ++ parameter.name)
        distinct functionName seen rest
      else
        return parameter :: (← distinct functionName (parameter.display :: seen) rest)

/-- All parameters of an operation in the order of the contract. -/
def candidates (builder : SignatureBuilder) (operation shared : Node) (context : String) :
    Mapping (List Parameter) := do
  let declared ← builder.declaredParameters operation shared context
  return declared ++ (← builder.bodyParameters operation context)

/-- The signature of an operation, or nothing when one of its parameters cannot be
mapped. -/
def build (builder : SignatureBuilder) (functionName method path : String)
    (operation shared : Node) : Run (Option Signature) := do
  let context := Name.pascal functionName
  let mark := (← Run.registry).checkpoint
  match ← (builder.candidates operation shared context).run with
  | none =>
      Run.rollback mark
      let operationId ← Run.lift (operation.value.member "operationId")
      let label ← Run.lift (operationId.orElse (.str functionName)).plainWithin
      Run.report .signatureFailed [label]
      return none
  | some candidates =>
      let kept ← distinct functionName [] candidates
      let operationId ← Run.lift (operation.value.member "operationId")
      let returnType ← builder.returnType operation context
      let summary ← Run.lift (operation.value.member "summary")
      let text ← Run.lift (operation.value.member "description")
      let description ← Run.lift (Schema.strip (summary.orElse (text.orElse (.str ""))))
      return some {
        functionName := functionName
        operationId := operationId
        method := method
        path := path
        parameters := kept.filter (·.required) ++ kept.filter (!·.required)
        returnType := returnType
        description := description
      }

end SignatureBuilder

end TypedContract
