/-
# TypedContract.Schema.Basic -- parsed schemas

A schema of a contract is parsed once into a node that knows its kind, the facts
the translation needs and its children.  A reference keeps its text and no
children.  The node remembers the value and the place it was parsed from, so that
the same inline schema is recognised when it is met again.
-/
import TypedContract.Json.Basic
import TypedContract.Json.Node
import TypedContract.Literal.Json
import TypedContract.Text.Markup

namespace TypedContract

set_option autoImplicit false

namespace Schema

/-- What a schema describes. -/
inductive Kind where
  | string
  | number
  | integer
  | boolean
  | array
  | object
  | reference
  | union
  | allOf
  | any
  deriving DecidableEq, Inhabited

namespace Kind

/-- The name of a kind. -/
def name : Kind → String
  | .string => "string"
  | .number => "number"
  | .integer => "integer"
  | .boolean => "boolean"
  | .array => "array"
  | .object => "object"
  | .reference => "reference"
  | .union => "union"
  | .allOf => "all_of"
  | .any => "any"

/-- The kind that a declared type means. -/
def ofType : String → Kind
  | "string" => .string
  | "number" => .number
  | "integer" => .integer
  | "boolean" => .boolean
  | "array" => .array
  | "object" => .object
  | _ => .any

end Kind

/-- The prefix of references to component schemas. -/
def componentPath : String := "#/components/schemas/"

/-- What a schema says apart from its children. -/
structure Facts where
  kind : Kind
  /-- The object the schema was parsed from. -/
  node : Node
  /-- The text of a reference, `null` for other schemas. -/
  ref : Json := .null
  format : Json := .null
  declaredType : Option String := none
  required : List Json := []
  default : Json := .null
  nullable : Bool := false
  enum : Json := .null
  description : Json := .str ""
  title : Json := .str ""
  readOnly : Bool := false
  /-- Whether further properties are allowed, when a truth value says so. -/
  additionalFlag : Option Bool := none
  deriving Inhabited

end Schema

/-- A parsed schema and its children: the schema of the items, the properties,
the schema of further properties and the members of a combination. -/
inductive Schema where
  | mk (facts : Schema.Facts) (items : Option Schema) (properties : List (String × Schema))
      (additional : Option Schema) (members : List Schema)

namespace Schema

instance : Inhabited Schema := ⟨.mk default none [] none []⟩

/-- What the schema says apart from its children. -/
def facts : Schema → Facts
  | .mk facts _ _ _ _ => facts

/-- The kind of the schema. -/
def kind (schema : Schema) : Kind := schema.facts.kind

/-- The schema of the items of an array. -/
def items : Schema → Option Schema
  | .mk _ items _ _ _ => items

/-- The properties of an object. -/
def properties : Schema → List (String × Schema)
  | .mk _ _ properties _ _ => properties

/-- The schema of further properties. -/
def additional : Schema → Option Schema
  | .mk _ _ _ additional _ => additional

/-- The members of a combination. -/
def members : Schema → List Schema
  | .mk _ _ _ _ members => members

/-- The component that a reference names: `none` when it names no component
schema.  A reference that is no text has no prefix to look at. -/
def Facts.refName (facts : Facts) : Except Fault (Option String) :=
  match facts.ref with
  | .null => .ok none
  | .str text =>
      if componentPath.toList.isPrefixOf text.toList then
        .ok (some (String.ofList (text.toList.drop componentPath.length)))
      else .ok none
  | _ => .error .noMember

/-- The schema only carries notes such as a description. -/
def isNote (schema : Schema) : Bool :=
  schema.kind == .any && schema.facts.declaredType.isNone

/-! ## Parsing -/

/-- The kind of a schema object. -/
def kindOf (entries : List (String × Json)) : Kind :=
  let has (name : String) : Bool := (Json.find? name entries).isSome
  if has "$ref" then .reference
  else if has "oneOf" || has "anyOf" then .union
  else if has "allOf" then .allOf
  else match Json.find? "type" entries with
    | some (.str declared) => Kind.ofType declared
    | _ =>
        if has "properties" || has "additionalProperties" then .object
        else if has "items" then .array
        else .any

/-- The declared type: a text as it is, anything else that counts as a literal. -/
def declaredTypeOf (declared : Json) : Except Fault (Option String) :=
  match declared with
  | .str name => .ok (some name)
  | declared => if declared.truthy then do return some (← declared.writtenWithin) else .ok none

/-- The facts of a schema object. -/
def factsOf (node : Node) (entries : List (String × Json)) : Except Fault Facts := do
  let value (name : String) : Json := (Json.find? name entries).getD .null
  let kind := kindOf entries
  let declaredType ← declaredTypeOf (value "type")
  let required ← ((value "required").orElse (.list [])).elements
  let required ← required.mapM Json.key
  return {
    kind := kind
    node := node
    ref := if kind == .reference then value "$ref" else .null
    format := value "format"
    declaredType := declaredType
    required := required
    default := value "default"
    nullable := (value "nullable").truthy
    enum := value "enum"
    description := (value "description").orElse (.str "")
    title := (value "title").orElse (.str "")
    readOnly := (value "readOnly").truthy
    additionalFlag :=
      match kind, value "additionalProperties" with
      | .reference, _ => none
      | _, .bool allowed => some allowed
      | _, _ => none
  }

/-- The nodes of the members of a combination. -/
def memberNodes (kind : Kind) (node : Node) : Except Fault (List Node) :=
  match kind with
  | .union => do
      let oneOf ← node.member "oneOf"
      let anyOf ← node.member "anyOf"
      -- an empty `oneOf` gives way to `anyOf`
      (if oneOf.value.truthy then oneOf else anyOf.orElse (.list [])).elements
  | .allOf => do (← node.member "allOf").elements
  | _ => .ok []

/-- Parses a schema; the first argument bounds the depth of the children. -/
def parseWithin : Nat → Node → Except Fault Schema
  | 0, _ => .error .endless
  | bound + 1, node => do
      match node.value with
      | .null => return .mk (← factsOf (.free (.object [])) []) none [] none []
      | .object entries => do
          let facts ← factsOf node entries
          -- a reference has no children, whatever stands beside it
          if facts.kind == .reference then return .mk facts none [] none []
          let members ← (← memberNodes facts.kind node).mapM (parseWithin bound)
          let items ← (node.find? "items" entries).mapM (parseWithin bound)
          let properties := (← node.member "properties").orElse (.object [])
          let properties ← (← properties.entries).mapM fun (name, child) => do
            return (name, ← parseWithin bound child)
          let further ← node.member "additionalProperties"
          let additional ← match further.value with
            | .object _ => some <$> parseWithin bound further
            | _ => pure none
          return .mk facts items properties additional members
      | .str _ => throw .noMember
      | .list _ => throw .noMember
      | _ => throw .unsuitable

/-- Parses a schema and the schemas in it. -/
def parse (node : Node) : Except Fault Schema := parseWithin (node.value.depth + 1) node

/-! ## Descriptions -/

/-- The text of a description without markup. -/
def strip (description : Json) : Except Fault String := do
  return Text.stripMarkup (← description.text)

/-- The values of an enumeration, which stands for none when it counts as absent. -/
def enumValues (enum : Json) : Except Fault (Option (List Json)) :=
  if enum.truthy then some <$> enum.elements else .ok none

/-- A description with the listed values at its end. -/
def describeValues (facts : Facts) (description : String) : Except Fault String := do
  match ← enumValues facts.enum with
  | none => return description
  | some values =>
      let listed := String.intercalate ", " (← values.mapM Json.plainWithin)
      if description != "" then return description ++ " (values: " ++ listed ++ ")"
      else return "Values: " ++ listed

/-- The description of a field. -/
def describe (facts : Facts) : Except Fault String := do
  let description ← if facts.description.truthy then strip facts.description else pure ""
  describeValues facts description

end Schema

end TypedContract
