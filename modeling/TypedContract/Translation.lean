/-
# TypedContract.Translation -- from schemas to structural types

A component schema is registered under its name and everything else refers to it.
An inline object with properties is hoisted: it becomes a registered record whose
name is made from where it was met, and the same object met again under that name
is not registered twice.  A record of an `allOf` takes the fields of its members.

Two things tie the translation of one schema to that of another: a reference
registers the component it names, and an `allOf` member that is still being built
is built anew from its schema.  `Ties` holds both, so that the translation of a
schema is a recursion on the schema alone; `Ties.within` ties the knot for a
bounded number of components inside one another.  Each nested registration adds
a name in progress and each nested rebuilding a name being rebuilt, so twice the
number of components is never exceeded.
-/
import TypedContract.Document.Contract
import TypedContract.Name.Snake
import TypedContract.Schema.Basic
import TypedContract.Session

namespace TypedContract

set_option autoImplicit false

namespace Translation

open Schema

/-- How the translation of a schema reaches other components. -/
structure Ties where
  /-- The component schemas of the document. -/
  schemas : Node
  /-- Registers a component and gives its type. -/
  component : String → Run Ty
  /-- Builds the type of a component without registering it. -/
  rebuild : String → Run Ty

/-! ## Leaves -/

/-- The primitive kind of a scalar schema with a format. -/
def scalarOf (kind : Kind) (format : String) : Scalar :=
  match kind, format with
  | .string, "byte" => .bytes
  | .string, "binary" => .bytes
  | .string, _ => .string
  | .integer, "int32" => .int32
  | .integer, _ => .int64
  | .number, "float" => .float
  | .number, _ => .double
  | .boolean, _ => .bool
  | _, _ => .string

/-- The type of a scalar schema, restricted to its listed values. -/
def scalar (facts : Facts) : Except Fault Ty := do
  let format ← facts.format.key
  let name := match format with
    | .str name => name
    | _ => ""
  let primitive := Primitive.of (scalarOf facts.kind name) facts.format
  match ← enumValues facts.enum with
  | none => return .primitive primitive
  | some values => return .primitive { primitive with enum := some values }

/-- A context with a part added; no context stays none. -/
def extend (context part : String) : String := if context == "" then "" else context ++ part

/-- A type that also admits nothing when the schema says so. -/
def withNil (nullable : Bool) (type : Ty) : Ty :=
  if nullable && !type.isNilable then .union none [type, .nil] else type

/-- The component is an object with properties or an `allOf` that admits nothing:
it carries that at each place where it is used. -/
def admitsNilAtUse (schemas : Node) (name : String) : Except Fault Bool := do
  let schema ← parse (← schemas.required name)
  if !schema.facts.nullable then return false
  return schema.kind == .allOf || (schema.kind == .object && !schema.properties.isEmpty)

/-- The type of a reference. -/
def reference (ties : Ties) (facts : Facts) : Run Ty := do
  let unresolved : Run Ty := do
    Run.report .unresolvedReference [facts.ref.plain]
    return .unknown ("unresolved " ++ facts.ref.plain)
  match ← Run.lift facts.refName with
  | none => unresolved
  | some name =>
      if !(← Run.lift (ties.schemas.value.holds name)) then unresolved
      else
        let _ ← ties.component name
        if ← Run.lift (admitsNilAtUse ties.schemas name) then
          return .union none [.reference name, .nil]
        else return .reference name

/-- The type of a schema of no known kind. -/
def unsupported (facts : Facts) (context : String) : Run Ty := do
  match facts.declaredType with
  | none => return .unknown "any"
  | some declared =>
      Run.report .unsupportedSchema
        [if context == "" then "<inline>" else context, "type " ++ declared]
      return .unknown ("unsupported type " ++ declared)

/-! ## Hoisting -/

/-- The record hoisted under a name was built from the schema at a place. -/
def isHoisted (s : Session) (name : String) (place : Option Place) : Bool :=
  place.isSome && s.hoisted.lookup name == some place && s.registry.contains name

/-- Registers an inline record under a name made from the context; the same schema
met again keeps its name. -/
def hoist (place : Option Place) (context : String) (record : String → Run Ty) : Run Ty := do
  let s ← get
  if isHoisted s context place then return .reference context
  let name := s.registry.uniqueName context
  -- noted before the record is built: a component that is built anew meets the same schema again
  modify fun s => { s with hoisted := (name, place) :: s.hoisted }
  let _ ← Run.register name (record name)
  return .reference name

/-! ## Merging -/

/-- The member itself, or the one member of an anonymous union that is not the
type of nothing. -/
def bareMember (type : Ty) : Ty :=
  match type with
  | .union none members =>
      match members.filter (!·.isNil) with
      | [only] => only
      | _ => type
  | type => type

/-- The type whose fields an `allOf` member contributes.  A component that is
still being built is built anew from its schema, so that the merge does not depend
on the order of the components. -/
def mergeSource (ties : Ties) (type : Ty) : Run Ty := do
  let resolved := (← Run.registry).resolve (bareMember type)
  match resolved with
  | .reference name =>
      let s ← get
      if !s.registry.inProgress name then return resolved
      -- a component that is already being built anew stays a reference, or this would not end
      if !(← Run.lift (ties.schemas.value.holds name)) || s.rebuilding.contains name then
        return resolved
      modify fun s => { s with rebuilding := name :: s.rebuilding }
      Run.afterwards (ties.rebuild name) fun _ s =>
        { s with rebuilding := s.rebuilding.filter (· != name) }
  | _ => return resolved

/-- Puts a field in the place of an earlier one of its name, or at the end. -/
def putField (field : Field Ty) : List (Field Ty) → List (Field Ty)
  | [] => [field]
  | first :: rest =>
      if first.name == field.name then field :: rest else first :: putField field rest

/-- The fields of records, a later one of a name replacing the earlier. -/
def mergeFields (types : List Ty) : List (Field Ty) :=
  types.foldl (fun merged type =>
    match type with
    | .record _ fields _ => fields.foldl (fun merged field => putField field merged) merged
    | _ => merged) []

/-- Combines the translated members of an `allOf`: records merge, a single other
member stands for itself. -/
def combine (ties : Ties) (facts : Facts) (name : Option String) (translated : List Ty) :
    Run Ty := do
  let resolved ← translated.mapM (mergeSource ties)
  if !resolved.isEmpty && resolved.all Ty.isRecord then
    let description ← Run.lift (strip facts.description)
    return .record name (mergeFields resolved) description
  -- the members as they were translated, not what they resolve to
  match translated with
  | [only] => return .union name [only]
  | _ =>
      Run.report .unsupportedCombinator [match name with
        | some name => if name == "" then "<inline>" else name
        | none => "<inline>"]
      return .unknown "unsupported allOf"

/-- The context of the `i`-th typed member of an `allOf`; inline objects merge
without a name of their own. -/
def memberContext (name : Option String) (i : Nat) (kind : Kind) : String :=
  match name with
  | some name => if name == "" || kind == .object then "" else name ++ toString i
  | none => ""

/-! ## Schemas -/

mutual

/-- The type of a schema; `context` names the records hoisted from it. -/
def translate (ties : Ties) : Schema → String → Run Ty
  | .mk facts items properties additional members, context => do
      let type ← match facts.kind with
        | .reference => reference ties facts
        | .array =>
            match items with
            | none => pure (.array (.unknown "untyped items"))
            | some item => .array <$> translate ties item (extend context "Item")
        | .object =>
            if properties.isEmpty then
              match additional with
              | none => pure (.map (.unknown "any"))
              | some value => .map <$> translate ties value (extend context "Value")
            else
              let record (name : Option String) : Run Ty := do
                let fields ← translateFields ties name facts.required properties
                return .record name fields (← Run.lift (strip facts.description))
              if context == "" then record none
              else hoist facts.node.place context fun name => record (some name)
        | .union => .union none <$> translateMembers ties context 1 members
        | .allOf =>
            let name := if context == "" then none else some context
            translateTyped ties name 1 members >>= combine ties facts name
        | .any => unsupported facts context
        | _ => Run.lift (scalar facts)
      return withNil facts.nullable type

/-- The types of the members of a union, numbered from `i` on. -/
def translateMembers (ties : Ties) (context : String) (i : Nat) : List Schema → Run (List Ty)
  | [] => return []
  | member :: rest => do
      let type ← translate ties member (extend context (toString i))
      return type :: (← translateMembers ties context (i + 1) rest)

/-- The types of the members of an `allOf` that are more than notes, numbered from
`i` on. -/
def translateTyped (ties : Ties) (name : Option String) (i : Nat) :
    List Schema → Run (List Ty)
  | [] => return []
  | member :: rest =>
      if member.isNote then translateTyped ties name i rest
      else do
        let type ← translate ties member (memberContext name i member.kind)
        return type :: (← translateTyped ties name (i + 1) rest)

/-- The fields of a record with a name. -/
def translateFields (ties : Ties) (name : Option String) (required : List Json) :
    List (String × Schema) → Run (List (Field Ty))
  | [] => return []
  | (property, schema) :: rest => do
      let context := match name with
        | some name => if name == "" then "" else name ++ Name.pascal property
        | none => ""
      let type ← translate ties schema context
      let description ← Run.lift (describe schema.facts)
      let field : Field Ty := {
        name := property
        type := type
        required := required.any (Json.same (.str property))
        default := schema.facts.default
        description := description
        readOnly := schema.facts.readOnly
      }
      return field :: (← translateFields ties name required rest)

end

/-- The record of an object schema. -/
def recordOf (ties : Ties) (name : Option String) (schema : Schema) : Run Ty := do
  let fields ← translateFields ties name schema.facts.required schema.properties
  return .record name fields (← Run.lift (strip schema.facts.description))

/-- The type of the component of a name. -/
def buildNamed (ties : Ties) (name : String) (schema : Schema) : Run Ty := do
  match schema.kind with
  | .object =>
      if schema.properties.isEmpty then translate ties schema name
      else recordOf ties (some name) schema
  | .allOf =>
      combine ties schema.facts (some name)
        (← translateTyped ties (some name) 1 schema.members)
  | .union => do
      let members ← translateNumbered schema.members
      let type : Ty := .union (some name) members
      if schema.facts.nullable && !type.isNilable then
        return .union (some name) (members ++ [.nil])
      else return type
  | _ => translate ties schema name
where
  /-- The members of a named union; even an empty name numbers them. -/
  translateNumbered (members : List Schema) : Run (List Ty) :=
    (members.zipIdx 1).mapM fun (member, i) => translate ties member (name ++ toString i)

/-- The ties over component schemas, for a bounded number of components inside one
another. -/
def Ties.within (schemas : Node) : Nat → Ties
  | 0 => ⟨schemas, fun _ => throw .endless, fun _ => throw .endless⟩
  | bound + 1 =>
      let inner := Ties.within schemas bound
      {
        schemas := schemas
        component := fun name => do
          let node ← Run.lift (schemas.required name)
          Run.register name do
            buildNamed inner name (← Run.lift (parse node))
        rebuild := fun name => do
          let node ← Run.lift (schemas.required name)
          buildNamed inner name (← Run.lift (parse node))
      }

/-- How many components can stand inside one another: each is in progress at most
once and rebuilt at most once. -/
def componentBound (schemas : Node) : Nat :=
  match schemas.value.elements with
  | .ok names => 2 * names.length + 2
  | .error _ => 2

end Translation

/-- The translation of the schemas of one document. -/
structure Translator where
  ties : Translation.Ties

namespace Translator

open Translation

/-- The translator of a document; its component names are reserved. -/
def create (document : Node) : Run Translator := do
  let schemas ← Run.lift (Contract.schemas document)
  let names ← Run.lift do (← schemas.value.elements).mapM Json.key
  -- what is no text is the name of no type
  Run.onRegistry (·.reserve (names.filterMap Json.str?))
  return ⟨Ties.within schemas (componentBound schemas)⟩

/-- The component schemas. -/
def schemas (translator : Translator) : Node := translator.ties.schemas

/-- The type of a parsed schema. -/
def translate (translator : Translator) (schema : Schema) (context : String) : Run Ty :=
  Translation.translate translator.ties schema context

/-- The type of a schema of the document. -/
def translateNode (translator : Translator) (node : Node) (context : String) : Run Ty := do
  translator.translate (← Run.lift (Schema.parse node)) context

/-- Registers a component and gives its type. -/
def component (translator : Translator) (name : String) : Run Ty :=
  translator.ties.component name

/-- Registers every component in the order of the document. -/
def components (translator : Translator) : Run Unit := do
  let names ← Run.lift translator.schemas.value.elements
  names.forM fun name => do
    let _ ← translator.component (← Run.lift name.text)

end Translator

end TypedContract
