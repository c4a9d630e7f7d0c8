/-
# TypedContract.Enrichment -- examples and descriptions from a source

The symbols of a source are matched with the parts of a contract: types with
component schemas and their fields with properties, functions with operations by
their identifier, and parameters by location and canonical name.  First all
examples are written, then the descriptions that the contract lacks.
-/
import TypedContract.Document.Contract
import TypedContract.Example.Mapper
import TypedContract.Json.Pointer
import TypedContract.Name.Snake

namespace TypedContract.Enrichment

set_option autoImplicit false

/-- The key of a schema that names its type in the source. -/
def typeExtension : String := "x-python-type"

/-! ## Types -/

/-- The name under which the type of a component is known in the source. -/
def sourceName (key : String) (schema : Node) : Except Fault Json := do
  return (← schema.value.member? typeExtension).getD (.str key)

/-- The mappers of the fields of a type, with each conflict reported; fields
without a property are noted. -/
def fieldMappers (typeName : Json) (properties : Node) :
    List (String × Symbol) → Edit (List ExampleMapper)
  | [] => return []
  | (field, symbol) :: rest => do
      let property ← Edit.lift (properties.member field)
      let qualified := typeName.plain ++ "." ++ field
      if property.value.isNull then
        Edit.note .debug .examples (qualified ++ " has no contract property")
        fieldMappers typeName properties rest
      else
        let mapper : ExampleMapper :=
          ⟨.node "field" property, .str qualified, symbol.annotations, symbol.facts.location⟩
        mapper.start
        return mapper :: (← fieldMappers typeName properties rest)

/-- Writes the examples of a type and of its fields. -/
def typeExamples (symbols : SymbolModel) (key : String) (schema : Node) : Edit Unit := do
  let schema ← Edit.refresh schema
  let typeName ← Edit.lift (sourceName key schema)
  match ← Edit.lift (symbols.typeNamed? typeName) with
  | none => return ()
  | some symbol =>
      (ExampleMapper.ofSymbol symbol (.node "type" schema)).run
      -- the schema may hold the example of the type by now
      let schema ← Edit.refresh schema
      if !symbol.fields.isEmpty && (← Edit.lift (schema.value.holds "properties")) then
        let properties := (← Edit.lift (schema.member "properties")).orElse (.object [])
        (← fieldMappers typeName properties symbol.fields).forM ExampleMapper.apply

/-! ## Parameters -/

/-- The part that a reference leads to; none when it leads nowhere or to `null`. -/
def resolve? (node : Node) : Edit (Option Node) := do
  let ref ← Edit.lift (node.value.required "$ref")
  match Pointer.resolve (← Edit.root) ref with
  | .ok target => return if target.value.isNull then none else some target
  | .error (.missingKey _) => return none
  | .error fault => throw fault

/-- The first parameter of a location whose canonical name is the wanted one. -/
def findParameter? (location : String) (wanted : String) : List Node → Edit (Option Node)
  | [] => return none
  | raw :: rest => do
      let raw ← Edit.refresh raw
      let isReference ← Edit.lift (raw.value.holds "$ref")
      let parameter? ← if isReference then resolve? raw else pure (some raw)
      match parameter? with
      | none => findParameter? location wanted rest
      | some parameter => do
          let place ← Edit.lift (parameter.value.member "in")
          if !place.same (.str location) then findParameter? location wanted rest
          else
            let name := (← Edit.lift (parameter.value.member? "name")).getD (.str "")
            if Name.display (← Edit.lift name.text) == wanted then return some parameter
            else findParameter? location wanted rest

/-- The parameter that a symbol's name stands for. -/
def parameterOf? (location : String) (name : Json) (parameters : List Node) :
    Edit (Option Node) := do
  findParameter? location (Name.display (← Edit.lift name.text)) parameters

/-- Writes the examples of a parameter symbol onto the parameter it stands for. -/
def parameterExamples (kind : ParameterKind) (symbol : Symbol) (name : Json)
    (parameters : List Node) : Edit Unit := do
  match ← parameterOf? kind.word name parameters with
  | none => return ()
  | some target =>
      (ExampleMapper.ofSymbol symbol (.node (kind.word ++ " parameter") target)).run

/-- The name given to a header by its annotation, else the name of the symbol. -/
def headerName (symbol : Symbol) : Except Fault Json :=
  go symbol.annotations
where
  /-- The first usable name among the annotations. -/
  go : List Annotation → Except Fault Json
    | [] => .ok symbol.name
    | tag :: rest =>
        if tag.type.isSubtypeOf Symbol.httpModule "Header" then
          match tag.field? "name" with
          | none => go rest
          | some text =>
              match Literal.decode text with
              | .ok (.str name) => .ok (.str name)
              | .ok _ => go rest
              | .error (.malformed _) => go rest
              | .error fault => .error fault
        else go rest

/-- Writes the examples of a payload onto the request body. -/
def payloadExamples (symbol : Symbol) (operation : Node) : Edit Unit := do
  let operation ← Edit.refresh operation
  let body ← Edit.lift (operation.member "requestBody")
  if body.value.isNull then return ()
  let body? ← if ← Edit.lift (body.value.holds "$ref") then resolve? body else pure (some body)
  (ExampleMapper.ofSymbol symbol (.request body?)).run

/-- Writes the examples of a parameter of a function. -/
def symbolExamples (operation : Node) (parameters : List Node) (symbol : Symbol) :
    Edit Unit := do
  match symbol.classify with
  | .payload => payloadExamples symbol operation
  | .query => parameterExamples .query symbol symbol.name parameters
  | .header => do
      parameterExamples .header symbol (← Edit.lift (headerName symbol)) parameters
  | _ => return ()

/-- Writes the examples of the function of an operation. -/
def operationExamples (symbols : SymbolModel) (item shared : Node) (method : String) :
    Edit Unit := do
  let item ← Edit.refresh item
  let operation ← Edit.lift (item.member method)
  if !operation.value.truthy then return ()
  let operationId ← Edit.lift (operation.value.member "operationId")
  if !operationId.truthy then return ()
  match ← Edit.lift (symbols.functionFor? operationId) with
  | none => return ()
  | some function =>
      let own ← Edit.lift do ((← operation.member "parameters").orElse (.list [])).elements
      let parameters := own ++ (← Edit.lift (← Edit.refresh shared).elements)
      function.parameters.forM (symbolExamples operation parameters)
      function.pathParameters.forM fun symbol =>
        parameterExamples .path symbol symbol.name parameters

/-- Writes the examples of the functions of a path item. -/
def itemExamples (symbols : SymbolModel) (item : Node) : Edit Unit := do
  let item ← Edit.refresh item
  let shared := (← Edit.lift (item.member "parameters")).orElse (.list [])
  Contract.methods.forM (operationExamples symbols item shared)

/-- Writes all examples. -/
def examples (symbols : SymbolModel) : Edit Unit := do
  let document ← Edit.root
  let schemas ← Edit.lift do (← Contract.schemas document).entries
  schemas.forM fun (key, schema) => typeExamples symbols key schema
  let document ← Edit.root
  let items ← Edit.lift do (← Contract.paths document).entries
  items.forM fun (_, item) => itemExamples symbols item

/-! ## Descriptions -/

/-- Writes a description where a node has none and is no reference. -/
def describe (node : Node) (documentation : Json) : Edit Unit := do
  if !documentation.truthy then return ()
  let node ← Edit.refresh node
  if (← Edit.lift (node.value.member "description")).truthy then return ()
  if ← Edit.lift (node.value.holds "$ref") then return ()
  Edit.assign node "description" documentation

/-- Writes the descriptions of a type and of its fields. -/
def typeDescriptions (symbols : SymbolModel) (key : String) (schema : Node) : Edit Unit := do
  let schema ← Edit.refresh schema
  match ← Edit.lift do symbols.typeNamed? (← sourceName key schema) with
  | none => return ()
  | some symbol =>
      describe schema symbol.facts.documentation
      let schema ← Edit.refresh schema
      let properties := (← Edit.lift (schema.member "properties")).orElse (.object [])
      symbol.fields.forM fun (field, symbol) => do
        if ← Edit.lift (properties.value.holds field) then
          describe (← Edit.lift (properties.required field)) symbol.facts.documentation

/-- The documentation of a function's parameters by their canonical names; a later
one of a name counts. -/
def documentations : List Symbol → Except Fault (List (String × Json))
  | [] => .ok []
  | symbol :: rest =>
      if symbol.facts.documentation.truthy then do
        let name := Name.display (← symbol.name.text)
        return (← documentations rest) ++ [(name, symbol.facts.documentation)]
      else documentations rest

/-- Writes the description of a parameter in place. -/
def parameterDescription (documented : List (String × Json)) (parameter : Node) :
    Edit Unit := do
  let parameter ← Edit.refresh parameter
  if ← Edit.lift (parameter.value.holds "$ref") then return ()
  let name := (← Edit.lift (parameter.value.member? "name")).getD (.str "")
  let display := Name.display (← Edit.lift name.text)
  describe parameter ((documented.lookup display).getD (.str ""))

/-- Writes the descriptions of an operation's own parameters. -/
def operationDescriptions (symbols : SymbolModel) (operation : Contract.Operation) :
    Edit Unit := do
  let node ← Edit.refresh operation.node
  let operationId := (← Edit.lift (node.value.member "operationId")).orElse (.str "")
  match ← Edit.lift (symbols.functionFor? operationId) with
  | none => return ()
  | some function =>
      let documented ← Edit.lift (documentations (function.pathParameters ++ function.parameters))
      let parameters ← Edit.lift do ((← node.member "parameters").orElse (.list [])).elements
      parameters.forM (parameterDescription documented)

/-- Writes the missing descriptions. -/
def descriptions (symbols : SymbolModel) : Edit Unit := do
  let document ← Edit.root
  let schemas ← Edit.lift do (← Contract.schemas document).entries
  schemas.forM fun (key, schema) => typeDescriptions symbols key schema
  let operations ← Edit.lift (Contract.operations (← Edit.root))
  operations.forM (operationDescriptions symbols)

/-- Writes the examples and the missing descriptions of a source into a contract. -/
def enrich (symbols : SymbolModel) : Edit Unit := do
  examples symbols
  descriptions symbols
  let count := (← get).diagnostics.length
  Edit.note .info .driver ("enriched contract (" ++ toString count ++ " diagnostics)")

end TypedContract.Enrichment
