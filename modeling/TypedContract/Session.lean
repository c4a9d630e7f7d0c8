/-
# TypedContract.Session -- the state of one run

A run shares one registry, one list of diagnostics and one log.  A step that
faults keeps what it had changed before: the state stands outside the result.
-/
import TypedContract.Diagnostic
import TypedContract.Json.Node
import TypedContract.Registry.Basic

namespace TypedContract

set_option autoImplicit false

namespace Log

/-- How important a line of the log is. -/
inductive Level where
  | debug
  | info
  | warning
  | error
  deriving DecidableEq, Inhabited

/-- The word for a level. -/
def Level.word : Level → String
  | .debug => "DEBUG"
  | .info => "INFO"
  | .warning => "WARNING"
  | .error => "ERROR"

/-- The rank of a level. -/
def Level.rank : Level → Nat
  | .debug => 10
  | .info => 20
  | .warning => 30
  | .error => 40

/-- The part of the program that a line comes from. -/
inductive Source where
  | program
  | report
  | loader
  | registry
  | parameters
  | examples
  | driver
  deriving DecidableEq, Inhabited

/-- The name of the part in the log. -/
def Source.name : Source → String
  | .program => "oasbridge"
  | .report => "oasbridge.report"
  | .loader => "oasbridge.loader"
  | .registry => "oasbridge.registry"
  | .parameters => "oasbridge.parameters"
  | .examples => "oasbridge.examples"
  | .driver => "oasbridge.driver"

/-- A line of the log. -/
structure Line where
  level : Level
  source : Source
  message : String

/-- The text of a line. -/
def Line.text (line : Line) : String :=
  line.level.word ++ " " ++ line.source.name ++ ": " ++ line.message

end Log

/-- The line that reports a diagnostic, unless its position has an integer beyond the
limit of digits. -/
def Diagnostic.logLine? (source : Log.Source) (diagnostic : Diagnostic) : Option Log.Line :=
  if diagnostic.location.all Location.isWithinDigits then
    some ⟨if diagnostic.isError then .error else .warning, source, diagnostic.text⟩
  else none

/-- The lines that report all diagnostics, errors first. -/
def Diagnostic.report (source : Log.Source) (all : List Diagnostic) : List Log.Line :=
  (ranked all).filterMap (logLine? source)

/-- The state of a run. -/
structure Session where
  registry : Registry := {}
  diagnostics : List Diagnostic := []
  /-- The place of the schema that each hoisted record was built from. -/
  hoisted : List (String × Option Place) := []
  /-- The components that are being built anew for a merge. -/
  rebuilding : List String := []
  log : List Log.Line := []

/-- A step of a run. -/
abbrev Run (α : Type) := ExceptT Fault (StateM Session) α

namespace Run

/-- Adds a diagnostic. -/
def report (code : Diagnostic.Code) (args : List String) : Run Unit :=
  modify fun s => { s with diagnostics := s.diagnostics ++ [⟨code, args, none⟩] }

/-- Adds a line to the log. -/
def note (level : Log.Level) (source : Log.Source) (message : String) : Run Unit :=
  modify fun s => { s with log := s.log ++ [⟨level, source, message⟩] }

/-- Changes the registry. -/
def onRegistry (change : Registry → Registry) : Run Unit :=
  modify fun s => { s with registry := change s.registry }

/-- The registry at this moment. -/
def registry : Run Registry := do return (← get).registry

/-- Runs a step and then changes the state, also when the step faults. -/
def afterwards {α : Type} (step : Run α) (change : Except Fault α → Session → Session) :
    Run α :=
  ExceptT.mk fun s =>
    let (result, s) := step.run s
    (result, change result s)

/-- The registered type of a name, built by `factory` unless the name already
stands for a type.  A factory that faults leaves its name unregistered and keeps
what it registered before. -/
def register (name : String) (factory : Run Ty) : Run Ty := do
  match (← registry).enter name with
  | .inl known => return known
  | .inr begun =>
      onRegistry fun _ => begun
      let built ← afterwards factory fun result s =>
        { s with registry := s.registry.leave name result.toOption }
      note .debug .registry ("registered type " ++ name)
      return built

/-- Registers a type that is already built; a different one keeps the first. -/
def define (name : String) (type : Ty) : Run Ty := do
  match (← registry).get? name with
  | none => do
      onRegistry (·.store name type)
      return type
  | some existing => do
      if !existing.same type then report .typeNameConflict [name]
      return existing

/-- Drops the entries beyond a mark. -/
def rollback (mark : Int) : Run Unit := do
  let dropped := (← registry).beyond mark
  onRegistry (·.rollback mark)
  dropped.forM fun name => note .debug .registry ("rolled back type " ++ name)

/-- Lifts a result that changes no state. -/
def lift {α : Type} (result : Except Fault α) : Run α := ExceptT.mk (pure result)

end Run

end TypedContract
