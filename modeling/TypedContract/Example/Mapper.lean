/-
# TypedContract.Example.Mapper -- writing annotated examples into a contract

A mapper belongs to one symbol and one target: a node of the contract, or a
request body, whose examples stand on its only media type.  A symbol with both
kinds of examples is in conflict: its mapper writes nothing.  A literal that is
refused is reported and leaves the target as it is.
-/
import TypedContract.Example.Basic

namespace TypedContract

set_option autoImplicit false

/-- A document that is being edited, the diagnostics and the log. -/
structure Draft where
  document : Json
  diagnostics : List Diagnostic := []
  log : List Log.Line := []

/-- A step of an edit; a step that faults keeps the changes made before. -/
abbrev Edit (α : Type) := ExceptT Fault (StateM Draft) α

namespace Edit

/-- Lifts a result that changes nothing. -/
def lift {α : Type} (result : Except Fault α) : Edit α := ExceptT.mk (pure result)

/-- Adds a diagnostic. -/
def report (code : Diagnostic.Code) (args : List String) (location : Option Location) :
    Edit Unit :=
  modify fun d => { d with diagnostics := d.diagnostics ++ [⟨code, args, location⟩] }

/-- Adds a line to the log. -/
def note (level : Log.Level) (source : Log.Source) (message : String) : Edit Unit :=
  modify fun d => { d with log := d.log ++ [⟨level, source, message⟩] }

/-- The root of the document as it is now. -/
def root : Edit Node := do return .root 0 (← get).document

/-- The node with its present value.  Only objects and lists change. -/
def refresh (node : Node) : Edit Node := do
  match node.place, node.value with
  | some place, .object _ => return { node with value := current (← get) place node.value }
  | some place, .list _ => return { node with value := current (← get) place node.value }
  | _, _ => return node
where
  /-- The value that stands at a place now. -/
  current (d : Draft) (place : Place) (value : Json) : Json :=
    (d.document.at? place.path).getD value

/-- Assigns a key of a node. -/
def assign (node : Node) (name : String) (value : Json) : Edit Unit := do
  let node ← refresh node
  let changed ← lift (Json.assign name value node.value)
  match node.place with
  | some place =>
      modify fun d => { d with document := Json.replaceAt changed place.path d.document }
  | none => return ()

end Edit

/-- Where the examples of a symbol go. -/
inductive ExampleTarget where
  /-- Onto a node itself; the word says what it is. -/
  | node (word : String) (node : Node)
  /-- Onto the only media type of a request body, if there is a body. -/
  | request (body : Option Node)

namespace ExampleTarget

/-- What the target is. -/
def word : ExampleTarget → String
  | .node word _ => word
  | .request _ => "request"

end ExampleTarget

/-- A symbol's examples on their way to a target. -/
structure ExampleMapper where
  target : ExampleTarget
  name : Json
  annotations : List Annotation
  location : Option Location

namespace ExampleMapper

open Example

/-- The mapper writes nothing. -/
def isDisabled (mapper : ExampleMapper) : Bool := inConflict mapper.annotations

/-- Reports the conflict of a mapper, once. -/
def start (mapper : ExampleMapper) : Edit Unit :=
  if mapper.isDisabled then
    Edit.report .conflictingExampleAnnotations [mapper.name.plain] mapper.location
  else pure ()

/-- The media types of a request body; none without content, and none with a
report when there is not exactly one. -/
def mediaTypes (mapper : ExampleMapper) (body : Node) : Edit (List Node) := do
  let body := (← Edit.refresh body).orElse (.object [])
  let content ← Edit.lift (body.member "content")
  if content.value.isNull then return []
  if (← Edit.lift content.value.size) != 1 then
    Edit.report .invalidMediaTypeCount [mapper.name.plain] mapper.location
    return []
  return (← Edit.lift content.entries).map (·.2)

/-- Writes examples onto the target. -/
def write (mapper : ExampleMapper) (which : Which) (value : Json) : Edit Unit := do
  match mapper.target with
  | .node _ node => Edit.assign node which.key value
  | .request none => pure ()
  | .request (some body) =>
      (← mapper.mediaTypes body).forM fun media => Edit.assign media which.key value

/-- Maps the examples of one kind. -/
def set (mapper : ExampleMapper) (which : Which) : Edit Unit := do
  if mapper.isDisabled then return ()
  match annotated? mapper.annotations which with
  | .ok none => return ()
  | .ok (some value) => mapper.write which value
  | .error (.malformed why) =>
      Edit.report .malformedExampleLiteral
        [which.key, mapper.target.word, mapper.name.plain, why.message] mapper.location
  | .error fault => throw fault

/-- Maps both kinds of examples. -/
def apply (mapper : ExampleMapper) : Edit Unit := do
  mapper.set .example
  mapper.set .examples

/-- Reports a conflict and maps both kinds of examples. -/
def run (mapper : ExampleMapper) : Edit Unit := do
  mapper.start
  mapper.apply

/-- The mapper of a symbol onto a target. -/
def ofSymbol (symbol : Symbol) (target : ExampleTarget) : ExampleMapper :=
  ⟨target, symbol.name, symbol.annotations, symbol.facts.location⟩

end ExampleMapper

end TypedContract
