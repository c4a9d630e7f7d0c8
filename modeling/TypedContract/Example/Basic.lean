/-
# TypedContract.Example.Basic -- example annotations and their values

A node of a contract has at most one example or one set of named examples; as an
annotation it carries the value as a literal expression.  A node with both is in
conflict and gets no annotation.  Read the other way, an `Example` annotation
holds any JSON value and an `Examples` annotation an object of objects.
-/
import TypedContract.Literal.Expression
import TypedContract.Session
import TypedContract.Symbol.Basic

namespace TypedContract.Example

set_option autoImplicit false

/-- The two kinds of examples. -/
inductive Which where
  | example
  | examples
  deriving DecidableEq, Inhabited

namespace Which

/-- The key of a node that holds the examples. -/
def key : Which → String
  | .example => "example"
  | .examples => "examples"

/-- The annotation type that carries the examples. -/
def annotationName : Which → String
  | .example => "Example"
  | .examples => "Examples"

end Which

/-- The module of the example annotations. -/
def module : String := "openapi"

/-- The field of an annotation that holds its value. -/
def valueField : String := "value"

/-- The first annotation that carries examples of a kind. -/
def find? (annotations : List Annotation) (which : Which) : Option Annotation :=
  annotations.find? fun a => a.type.module == module && a.type.name == which.annotationName

/-- Both kinds of examples are annotated. -/
def inConflict (annotations : List Annotation) : Bool :=
  (find? annotations .example).isSome && (find? annotations .examples).isSome

/-! ## From a contract -/

/-- The annotation that carries a literal expression. -/
def annotationOf (which : Which) (text : String) : Annotation :=
  ⟨⟨module, which.annotationName, []⟩, [(valueField, text)]⟩

/-- The annotation of a value, or a diagnostic when it has no literal expression. -/
def annotate (which : Which) (value : Literal) (name : String) : Run (List Annotation) :=
  match value.encode with
  | .ok text => return [annotationOf which text]
  | .error (.malformed why) => do
      Run.report .malformedExampleLiteral [which.key, "contract node", name, why.message]
      return []
  | .error fault => throw fault

/-- The annotations for the example and the named examples of a node; named
examples that are `null` count as missing. -/
def annotateBoth (example? : Option Literal) (examples : Literal) (name : String) :
    Run (List Annotation) :=
  match example?, examples with
  | none, .null => return []
  | some value, .null => annotate .example value name
  | none, values => annotate .examples values name
  | some _, _ => do
      Run.report .conflictingExampleAnnotations [name]
      return []

/-- The annotations for the examples of a node of a contract. -/
def annotationsFor (node : Json) (name : String) : Run (List Annotation) := do
  let value? ← Run.lift (node.member? Which.example.key)
  let values ← Run.lift (node.member Which.examples.key)
  annotateBoth (value?.map Literal.ofJson) (Literal.ofJson values) name

/-- The value of a text key in a mapping. -/
def lookup? (name : String) : List (Literal × Literal) → Option Literal
  | [] => none
  | (.str key, value) :: rest => if key == name then some value else lookup? name rest
  | _ :: rest => lookup? name rest

/-- The annotations for the examples of a node whose values may lie beyond JSON. -/
def annotationsForLiteral (node : Literal) (name : String) : Run (List Annotation) :=
  match node with
  | .mapping entries =>
      annotateBoth (lookup? Which.example.key entries)
        ((lookup? Which.examples.key entries).getD .null) name
  | _ => throw .noMember

/-! ## To a contract -/

/-- The literal expression of the annotated examples, if any are annotated. -/
def expression? (annotations : List Annotation) (which : Which) :
    Except Fault (Option String) :=
  match find? annotations which with
  | none => .ok none
  | some tag =>
      match tag.field? valueField with
      | some text => .ok (some text)
      | none => .error (.malformed .noValue)

/-- Named examples are an object of objects. -/
def checkNamed : Json → Except Fault Unit
  | .object entries =>
      match entries.find? fun entry => match entry.2 with
        | .object _ => false
        | _ => true with
      | some (name, _) => .error (.malformed (.exampleNotObject name))
      | none => .ok ()
  | _ => .error (.malformed .examplesNotMapping)

/-- The value of a literal expression as examples of a kind. -/
def decode (which : Which) (text : String) : Except Fault Json := do
  let value ← Literal.decode text
  if which = .examples then checkNamed value
  return value

/-- The annotated examples of a kind, if there are any. -/
def annotated? (annotations : List Annotation) (which : Which) : Except Fault (Option Json) := do
  match ← expression? annotations which with
  | none => return none
  | some text => return some (← decode which text)

end TypedContract.Example
