/-
# TypedContract.Registry.Program -- programs of registry calls

A program is a list of calls; a call of `register` brings the steps that its
factory runs before it returns the type or fails.  `Step.run` answers each step
with its result and the state after it.  A step that fails does not stop the
steps after it, inside a factory or outside.
-/
import TypedContract.Session

namespace TypedContract.Registry

set_option autoImplicit false

/-- A mark to roll back to: a number or the label of a checkpoint. -/
inductive Mark where
  | number (mark : Int)
  | label (name : String)

/-- One call on a registry. -/
inductive Step where
  /-- The factory runs the inner steps and then returns the type or fails. -/
  | register (name : String) (type : Ty) (inner : List Step) (failure : Option String)
  | define (name : String) (type : Ty)
  | reserve (names : List String)
  | uniqueName (base : String)
  | checkpoint (label : Option String)
  | rollback (mark : Mark)
  | inProgress (name : String)
  | get (name : String)
  | contains (name : String)
  | resolve (type : Ty)
  | dangling
  deriving Inhabited

/-- What a call returns. -/
inductive Result where
  | nothing
  | type (value : Option Ty)
  | flag (value : Bool)
  | number (value : Nat)
  | name (value : String)
  | names (values : List String)

/-- The answer to a step. -/
inductive Answer where
  /-- The result, the answers of the factory's steps (`none` unless the step is a
  registration), and the names and codes of the diagnostics after the step. -/
  | mk (result : Except Fault Result) (inner : Option (List Answer)) (names : List String)
      (codes : List Diagnostic.Code)

/-- The state of a program: the session and the labelled checkpoints. -/
structure ProgramState where
  session : Session := {}
  marks : List (String × Nat) := []

namespace Step

/-- Runs a step on the session alone. -/
def onSession {α : Type} (step : Run α) (s : ProgramState) : Except Fault α × ProgramState :=
  let (result, session) := step.run s.session
  (result, { s with session := session })

/-- The answer with the state after the step. -/
def answer (result : Except Fault Result) (inner : Option (List Answer)) (s : ProgramState) :
    Answer × ProgramState :=
  (.mk result inner s.session.registry.names (s.session.diagnostics.map (·.code)), s)

/-- The answer of a step without inner steps. -/
def plain (s : ProgramState) (step : Run Result) : Answer × ProgramState :=
  let (result, s) := onSession step s
  answer result none s

/-- The number that a mark stands for. -/
def markOf (s : ProgramState) : Mark → Except Fault Int
  | .number mark => .ok mark
  | .label name =>
      match s.marks.lookup name with
      | some mark => .ok mark
      | none => .error (.missingKey name)

mutual

/-- Runs one step. -/
def run (step : Step) (s : ProgramState) : Answer × ProgramState :=
  match step with
  | .register name type inner failure =>
      match s.session.registry.enter name with
      | .inl known => answer (.ok (.type (some known))) (some []) s
      | .inr begun =>
          let (answers, s) := runAll inner { s with session.registry := begun }
          let built : Except Fault Ty :=
            match failure with
            | some text => .error (.scripted text)
            | none => .ok type
          answer (built.map fun type => .type (some type)) (some answers)
            { s with session.registry := s.session.registry.leave name built.toOption }
  | .define name type => plain s do return .type (some (← Run.define name type))
  | .reserve names => plain s do
      Run.onRegistry (·.reserve names)
      return .nothing
  | .uniqueName base => plain s do return .name ((← Run.registry).uniqueName base)
  | .checkpoint label =>
      let mark := s.session.registry.checkpoint
      let s := match label with
        | some name => { s with marks := (name, mark) :: s.marks }
        | none => s
      answer (.ok (.number mark)) none s
  | .rollback mark => plain s do
      Run.rollback (← Run.lift (markOf s mark))
      return .nothing
  | .inProgress name => plain s do return .flag ((← Run.registry).inProgress name)
  | .get name => plain s do return .type ((← Run.registry).get? name)
  | .contains name => plain s do return .flag ((← Run.registry).contains name)
  | .resolve type => plain s do return .type (some ((← Run.registry).resolve type))
  | .dangling => plain s do return .names (← Run.registry).dangling

/-- Runs the steps one after the other. -/
def runAll (steps : List Step) (s : ProgramState) : List Answer × ProgramState :=
  match steps with
  | [] => ([], s)
  | step :: rest =>
      let (first, s) := run step s
      let (answers, s) := runAll rest s
      (first :: answers, s)

end

end Step

end TypedContract.Registry
