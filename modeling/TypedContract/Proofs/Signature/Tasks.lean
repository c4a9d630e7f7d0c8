/-
# TypedContract.Proofs.Signature.Tasks -- what is done for the parameters of an operation

Which parts of a contract become parameters, and in which order, depends on the contract
alone: the registry is looked at only once a part is translated.  `tasks` lists what is to
be done for an operation: the declared parameters in force, the request body, the headers of
its encodings.  The list ends early with a `Stop` where a reference leads nowhere or the
contract has no such part.

The building of the parameters is the tasks performed one after the other
(`candidates_eq_perform`), as the same program: with the same diagnostics, the same lines of
the log and the same faults.  What is to be said of it takes one case for each kind of task
and an induction over the list.
-/
import TypedContract.Signature.Builder

namespace TypedContract

set_option autoImplicit false

namespace SignatureBuilder

/-- Why no more tasks can be found. -/
inductive Stop where
  /-- A reference leads nowhere. -/
  | nowhere (ref : String)
  | fault (why : Fault)

/-- One thing that is done for the parameters of an operation. -/
inductive Task where
  /-- A parameter of an unknown location is only noted. -/
  | skip (place name : Json)
  | parameter (kind : ParameterKind) (node : Node)
  | payload (body content : Node)
  | stop (why : Stop)

variable {α β : Type}

/-! ## Stopping -/

/-- Gives the operation up, or faults. -/
def Stop.raise : Stop → Mapping α
  | .nowhere ref => Mapping.giveUp .unresolvedParameter [ref]
  | .fault why => Mapping.lift (.error why)

/-- Goes on with what is found in the contract. -/
def found : Except Stop α → Mapping α
  | .ok a => pure a
  | .error stop => stop.raise

/-- A part of the contract that may not be there. -/
def part : Except Fault α → Except Stop α
  | .ok a => .ok a
  | .error fault => .error (.fault fault)

theorem giveUp_bind {code : Diagnostic.Code} {args : List String} {next : α → Mapping β} :
    (Mapping.giveUp code args >>= next) = Mapping.giveUp code args := by
  unfold Mapping.giveUp
  rw [bind_assoc]
  rfl

theorem lift_error_bind {fault : Fault} {next : α → Mapping β} :
    (Mapping.lift (.error fault) >>= next) = Mapping.lift (.error fault) := by
  rfl

theorem Stop.raise_bind {stop : Stop} {next : α → Mapping β} :
    (stop.raise >>= next) = stop.raise := by
  cases stop with
  | nowhere ref => exact giveUp_bind
  | fault why => exact lift_error_bind

theorem found_bind {first : Except Stop α} {next : α → Except Stop β} :
    found (first >>= next) = found first >>= fun a => found (next a) := by
  cases first with
  | ok a => exact (pure_bind a fun a => found (next a)).symm
  | error stop => exact Stop.raise_bind.symm

theorem found_pure {a : α} : found (pure a : Except Stop α) = pure a := rfl

theorem found_part {result : Except Fault α} : found (part result) = Mapping.lift result := by
  cases result with
  | ok a => rfl
  | error fault => rfl

/-! ## Finding tasks -/

/-- The tasks for what is found, or the stop alone. -/
def tasksFor (first : Except Stop α) (next : α → List Task) : List Task :=
  match first with
  | .ok a => next a
  | .error stop => [.stop stop]

/-- The part at the end of a chain of references. -/
def target (builder : SignatureBuilder) (raw : Node) : Except Stop Node :=
  match builder.resolve raw with
  | .ok node => .ok node
  | .error (.missingKey _) => do
      let ref ← part (raw.value.member "$ref")
      .error (.nowhere ref.plain)
  | .error fault => .error (.fault fault)

/-- The declared parameters in force. -/
def inForceFrom (builder : SignatureBuilder) (kept : List Node) :
    List Node → Except Stop (List Node)
  | [] => .ok kept
  | raw :: rest => do
      let parameter ← builder.target raw
      inForceFrom builder (← part (declared.overrideIn parameter kept)) rest

/-- The tasks for declared parameters. -/
def placedTasks : List Node → List Task
  | [] => []
  | raw :: rest => tasksFor (part (kindOf raw)) fun
      | .other =>
          tasksFor (part (raw.value.member "in")) fun place =>
            tasksFor (part (raw.value.member "name")) fun name =>
              .skip place name :: placedTasks rest
      | kind => .parameter kind raw :: placedTasks rest

/-- The tasks for the headers of an encoding. -/
def headerTasks (builder : SignatureBuilder) : List (String × Node) → List Task
  | [] => []
  | (name, raw) :: rest =>
      tasksFor (do part (namedHeader (← builder.target raw) name)) fun header =>
        .parameter .header header :: headerTasks builder rest

/-- The tasks for encodings. -/
def encodingTasks (builder : SignatureBuilder) : List (String × Node) → List Task
  | [] => []
  | (_, encoding) :: rest =>
      tasksFor (part do ((← encoding.member "headers").orElse (.object [])).entries) fun headers =>
        builder.headerTasks headers ++ encodingTasks builder rest

/-- The tasks for the encodings of media types. -/
def mediaTasks (builder : SignatureBuilder) : List (String × Node) → List Task
  | [] => []
  | (_, media) :: rest =>
      tasksFor (part do ((← media.member "encoding").orElse (.object [])).entries) fun encodings =>
        builder.encodingTasks encodings ++ mediaTasks builder rest

/-- The tasks for a request body. -/
def bodyTasks (builder : SignatureBuilder) (operation : Node) : List Task :=
  tasksFor (part (operation.member "requestBody")) fun raw =>
    if !raw.value.truthy then []
    else tasksFor (do
        let body ← builder.target raw
        return (body, (← part (body.member "content")).orElse (.object []))) fun (body, content) =>
      .payload body content :: tasksFor (part content.entries) builder.mediaTasks

/-- The tasks for the declared parameters of an operation and its path. -/
def declaredTasks (builder : SignatureBuilder) (operation shared : Node) : List Task :=
  tasksFor (do
    let shared ← part (shared.orElse (.list [])).elements
    let own ← part do ((← operation.member "parameters").orElse (.list [])).elements
    builder.inForceFrom [] (shared ++ own)) placedTasks

/-- The tasks for the parameters of an operation. -/
def tasks (builder : SignatureBuilder) (operation shared : Node) : List Task :=
  builder.declaredTasks operation shared ++ builder.bodyTasks operation

/-! ## Performing tasks -/

/-- Performs a task; what it adds to the parameters comes back. -/
def Task.perform (builder : SignatureBuilder) (context : String) : Task → Mapping (List Parameter)
  | .skip place name => do
      OptionT.lift (noteSkipped place name)
      return []
  | .parameter kind node => do return [← builder.parameter node kind context]
  | .payload body content => do return [← OptionT.lift (builder.payload body content context)]
  | .stop why => why.raise

/-- Performs tasks one after the other. -/
def perform (builder : SignatureBuilder) (context : String) : List Task → Mapping (List Parameter)
  | [] => return []
  | task :: rest => do return (← task.perform builder context) ++ (← perform builder context rest)

section

variable {builder : SignatureBuilder} {context : String}

theorem perform_append {first second : List Task} :
    builder.perform context (first ++ second) = do
      return (← builder.perform context first) ++ (← builder.perform context second) := by
  induction first with
  | nil => simp [perform]
  | cons task rest ih => simp only [List.cons_append, perform, ih, bind_assoc, pure_bind,
      List.append_assoc]

theorem perform_tasksFor {first : Except Stop α} {next : α → List Task} :
    builder.perform context (tasksFor first next) =
      found first >>= fun a => builder.perform context (next a) := by
  cases first with
  | ok a => simp [tasksFor, found]
  | error stop => simp [tasksFor, found, perform, Task.perform, Stop.raise_bind]

theorem perform_parameter {kind : ParameterKind} {node : Node} {rest : List Task} :
    builder.perform context (.parameter kind node :: rest) = do
      let first ← builder.parameter node kind context
      return first :: (← builder.perform context rest) := by
  simp [perform, Task.perform]

theorem perform_payload {body content : Node} {rest : List Task} :
    builder.perform context (.payload body content :: rest) = do
      let first ← OptionT.lift (builder.payload body content context)
      return first :: (← builder.perform context rest) := by
  simp [perform, Task.perform]

theorem perform_skip {place name : Json} {rest : List Task} :
    builder.perform context (.skip place name :: rest) =
      OptionT.lift (noteSkipped place name) >>= fun _ =>
      builder.perform context rest := by
  simp [perform, Task.perform]

/-! ## The parameters of an operation -/

theorem resolved_eq {raw : Node} : builder.resolved raw = found (builder.target raw) := by
  unfold resolved target
  cases builder.resolve raw with
  | ok node => rfl
  | error why =>
      cases why with
      | missingKey key => exact (found_bind.trans (by rw [found_part]; rfl)).symm
      | _ => rfl

theorem declared_eq {raw kept : List Node} :
    builder.declared kept raw = found (builder.inForceFrom kept raw) := by
  induction raw generalizing kept with
  | nil => rfl
  | cons first rest ih =>
      simp only [declared, inForceFrom, found_bind, found_part, resolved_eq, ih]

theorem placed_eq {nodes : List Node} :
    builder.placed context nodes = builder.perform context (placedTasks nodes) := by
  induction nodes with
  | nil => rfl
  | cons first rest ih =>
      rw [placed, placedTasks, perform_tasksFor, found_part]
      congr 1
      funext kind
      cases kind with
      | other => simp only [perform_tasksFor, found_part, perform_skip, ih]
      | _ => rw [perform_parameter, ih]

theorem headerParameters_eq {headers : List (String × Node)} :
    builder.headerParameters context headers =
      builder.perform context (builder.headerTasks headers) := by
  induction headers with
  | nil => rfl
  | cons header rest ih =>
      simp only [headerParameters, headerTasks, perform_tasksFor, found_bind, found_part,
        perform_parameter, resolved_eq, ih, bind_assoc]

theorem encodingParameters_eq {encodings : List (String × Node)} :
    builder.encodingParameters context encodings =
      builder.perform context (builder.encodingTasks encodings) := by
  induction encodings with
  | nil => rfl
  | cons encoding rest ih =>
      simp only [encodingParameters, encodingTasks, perform_tasksFor, found_part, perform_append,
        headerParameters_eq, ih]

theorem mediaParameters_eq {media : List (String × Node)} :
    builder.mediaParameters context media =
      builder.perform context (builder.mediaTasks media) := by
  induction media with
  | nil => rfl
  | cons medium rest ih =>
      simp only [mediaParameters, mediaTasks, perform_tasksFor, found_part, perform_append,
        encodingParameters_eq, ih]

theorem bodyParameters_eq {operation : Node} :
    builder.bodyParameters operation context =
      builder.perform context (builder.bodyTasks operation) := by
  rw [bodyParameters, bodyTasks, perform_tasksFor, found_part]
  congr 1
  funext raw
  split
  · rfl
  · simp only [perform_tasksFor, found_bind, found_part, found_pure, resolved_eq, bind_assoc,
      pure_bind, perform_payload, mediaParameters_eq]

theorem declaredParameters_eq {operation shared : Node} :
    builder.declaredParameters operation shared context =
      builder.perform context (builder.declaredTasks operation shared) := by
  simp only [declaredParameters, declaredTasks, perform_tasksFor, found_bind, found_part,
    declared_eq, placed_eq, bind_assoc]

/-- The parameters of an operation are built by performing its tasks. -/
theorem candidates_eq_perform {operation shared : Node} :
    builder.candidates operation shared context =
      builder.perform context (builder.tasks operation shared) := by
  rw [candidates, declaredParameters_eq, bodyParameters_eq, tasks, perform_append]

end

end SignatureBuilder

end TypedContract
