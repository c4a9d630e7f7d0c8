/-
# TypedContract.Proofs.Client.Segments -- the slots of a client for texts of the contract

The text of a client is made of segments (`View.source_eq_written`): texts that every client
has or that are made for it, and slots where a text of the contract stands between quotes.
-/
import TypedContract.Client.Source

namespace TypedContract.Client

set_option autoImplicit false

/-! ## Slots -/

/-- A slot between quotes. -/
inductive Slot where
  /-- The title and the version, at the start of the module. -/
  | title (title : Json) (version : String)
  /-- The description of a record or an operation. -/
  | description (text : String)
  /-- The path of an operation. -/
  | path (text : String)
  /-- The name under which a parameter is sent. -/
  | wireName (text : String)

/-- The text of the heading. -/
def headingText (title : Json) (version : String) : String :=
  titleText title ++ " client" ++ (if version.isEmpty then "" else " (" ++ version ++ ")") ++
    ".\n\nGenerated by oasbridge. Do not edit.\n"

namespace Slot

/-- The literal at the slot. -/
def literal : Slot → String
  | .title name version => "\"\"\"" ++ headingText name version ++ "\"\"\""
  | .description text => docstring text
  | .path text | .wireName text => doubleQuoted text

/-- The mark that follows the literal. -/
def mark : Slot → String
  | .title _ _ | .description _ => ""
  | .path _ => ","
  | .wireName _ => ":"

end Slot

/-- A piece of a module. -/
inductive Segment where
  | fixed (text : String)
  | slot (slot : Slot)

/-- The text of a piece. -/
def Segment.written : Segment → String
  | .fixed text => text
  | .slot own => own.literal ++ own.mark

/-- The text of pieces. -/
def written (segments : List Segment) : String := String.join (segments.map Segment.written)

@[simp] theorem written_nil : written [] = "" := by simp [written]

@[simp] theorem written_cons (segment : Segment) (segments : List Segment) :
    written (segment :: segments) = segment.written ++ written segments := by
  simp [written]

@[simp] theorem written_append (first second : List Segment) :
    written (first ++ second) = written first ++ written second := by
  simp [written]

theorem written_flatMap {α : Type} (pieces : α → List Segment) (items : List α) :
    written (items.flatMap pieces) = String.join (items.map fun item => written (pieces item)) := by
  induction items with
  | nil => simp
  | cons item rest ih => simp [ih]

@[simp] theorem unlines_nil : unlines [] = "" := by simp [unlines]

@[simp] theorem unlines_cons (line : String) (lines : List String) :
    unlines (line :: lines) = line ++ "\n" ++ unlines lines := by
  simp [unlines]

@[simp] theorem unlines_append (first second : List String) :
    unlines (first ++ second) = unlines first ++ unlines second := by
  simp [unlines]

theorem unlines_flatMap {α : Type} (lines : α → List String) (items : List α) :
    unlines (items.flatMap lines) = String.join (items.map fun item => unlines (lines item)) := by
  induction items with
  | nil => simp
  | cons item rest ih => simp [ih]

/-! ## Pieces -/

/-- The pieces of a description on a line of its own. -/
def descriptionSegments (indent text : String) : List Segment :=
  if text.isEmpty then [] else [.fixed indent, .slot (.description text), .fixed "\n"]

/-- The pieces of the declaration of a type. -/
def TypeView.segments (type : TypeView) : List Segment :=
  match type.body with
  | .record fields description =>
      let lines := recordLines type.annotations fields description
      .fixed (unlines ["", "", "@dataclass(kw_only=True)", "class " ++ type.name ++ ":"])
        :: descriptionSegments "    " description
        ++ [.fixed (unlines (lines.drop (if description.isEmpty then 0 else 1)))]
  | .alias _ => [.fixed (unlines (typeLines type))]

/-- The pieces of an argument that gathers parameters. -/
def gatheredSegments (name : String) (parameters : List ParameterView) : List Segment :=
  .fixed ("            " ++ name ++ "=\x7b ")
    :: parameters.flatMap (fun parameter =>
      [.slot (.wireName parameter.name), .fixed (" " ++ parameter.identifier ++ ", ")])
    ++ [.fixed "\x7d,\n"]

/-- The pieces of the method of an operation. -/
def OperationView.segments (operation : OperationView) : List Segment :=
  .fixed (unlines (["", "    def " ++ operation.name ++ "(", "        self,"]
      ++ operation.parameters.map parameterLine
      ++ ["    ) -> " ++ operation.returnType ++ ":"]))
    :: descriptionSegments "        " operation.description
    ++ [.fixed (unlines ["        return self._request(",
          "            " ++ doubleQuoted operation.method.toUpper ++ ","]),
        .fixed "            ", .slot (.path operation.path), .fixed "\n"]
    ++ gatheredSegments "path_params" (operation.ofKind .path)
    ++ gatheredSegments "query" (operation.ofKind .query)
    ++ gatheredSegments "headers" (operation.ofKind .header)
    ++ [.fixed (unlines (payloadLines operation.mediaType operation.payload? ++ ["        )"]))]

/-- The pieces of a client. -/
def View.segments (view : View) : List Segment :=
  .slot (.title view.title view.version)
    :: .fixed ("\n" ++ unlines ((heading view.title view.version).drop 4))
    :: view.types.flatMap TypeView.segments
    ++ .fixed (unlines (encoderLines ++ classLines view.clientName view.operations.length))
    :: view.operations.flatMap OperationView.segments

/-! ## The text of the pieces -/

theorem written_descriptionSegments (indent text : String) :
    written (descriptionSegments indent text) =
      unlines (if text.isEmpty then [] else [indent ++ docstring text]) := by
  unfold descriptionSegments
  split
  · simp
  · simp [Segment.written, Slot.literal, Slot.mark, String.append_assoc]

theorem written_typeSegments (type : TypeView) :
    written type.segments = unlines (typeLines type) := by
  unfold TypeView.segments
  split
  · rename_i fields description record
    have front : unlines (recordLines type.annotations fields description) =
        unlines (if description.isEmpty then [] else ["    " ++ docstring description]) ++
          unlines ((recordLines type.annotations fields description).drop
            (if description.isEmpty then 0 else 1)) := by
      rw [← unlines_append]
      by_cases none : description.isEmpty = true <;> simp [recordLines, none]
    have opening : unlines ["", "", "@dataclass(kw_only=True)", "class " ++ type.name ++ ":"] =
        unlines ["", ""] ++ unlines ["@dataclass(kw_only=True)", "class " ++ type.name ++ ":"] :=
      unlines_append ["", ""] _
    rw [List.cons_append, opening]
    simp only [typeLines, record, unlines_append, front, written_append, written_cons, written_nil,
      Segment.written, written_descriptionSegments, String.append_assoc, String.append_empty]
  · simp [Segment.written]

theorem written_gatheredSegments (name : String) (parameters : List ParameterView) :
    written (gatheredSegments name parameters) = gatheredLine name parameters ++ "\n" := by
  have entries : written (parameters.flatMap fun parameter =>
        [.slot (.wireName parameter.name), .fixed (" " ++ parameter.identifier ++ ", ")]) =
      String.join (parameters.map fun parameter =>
        doubleQuoted parameter.name ++ ": " ++ parameter.identifier ++ ", ") := by
    rw [written_flatMap]
    refine congrArg String.join (List.map_congr_left fun parameter _ => ?_)
    have colon : (": " : String) = ":" ++ " " := rfl
    simp only [written_cons, written_nil, Segment.written, Slot.literal, Slot.mark, colon,
      String.append_assoc, String.append_empty]
  rw [gatheredSegments, List.cons_append, written_cons, written_append, entries]
  simp [gatheredLine, Segment.written, String.append_assoc]

theorem written_operationSegments (operation : OperationView) :
    written operation.segments = unlines (operationLines operation) := by
  have comma : (",\n" : String) = "," ++ "\n" := rfl
  unfold OperationView.segments operationLines
  simp [Segment.written, Slot.literal, Slot.mark, written_descriptionSegments,
    written_gatheredSegments, String.append_assoc]
  simp only [comma, String.append_assoc]

/-- A client is the text of its pieces. -/
theorem View.source_eq_written (view : View) : view.source = written view.segments := by
  have types : written (view.types.flatMap TypeView.segments) =
      unlines (view.types.flatMap typeLines) := by
    simp only [written_flatMap, unlines_flatMap, written_typeSegments]
  have operations : written (view.operations.flatMap OperationView.segments) =
      unlines (view.operations.flatMap operationLines) := by
    simp only [written_flatMap, unlines_flatMap, written_operationSegments]
  have lines : heading view.title view.version =
      ["\"\"\"" ++ titleText view.title ++ " client"
          ++ (if view.version.isEmpty then "" else " (" ++ view.version ++ ")") ++ ".",
        "", "Generated by oasbridge. Do not edit.", "\"\"\""] ++
        (heading view.title view.version).drop 4 := rfl
  have front : unlines (heading view.title view.version) =
      (Slot.title view.title view.version).literal ++ ("\n" ++
        unlines ((heading view.title view.version).drop 4)) := by
    rw [lines, unlines_append, ← lines]
    simp only [unlines_cons, unlines_nil, Slot.literal, headingText, String.append_assoc]
    rfl
  rw [View.source, View.segments]
  simp only [unlines_append, written_append, written_cons, types, operations, front,
    Segment.written, Slot.mark, String.append_assoc, String.append_empty, List.cons_append]

/-! ## The slots of a client -/

variable {slot : Slot}

theorem slot_mem_descriptionSegments {indent text : String} :
    .slot slot ∈ descriptionSegments indent text ↔
      text.isEmpty = false ∧ slot = .description text := by
  unfold descriptionSegments
  split <;> simp_all

theorem slot_mem_typeSegments {type : TypeView} : .slot slot ∈ type.segments ↔
    ∃ fields text, type.body = .record fields text ∧ text.isEmpty = false ∧
      slot = .description text := by
  unfold TypeView.segments
  split
  · rename_i fields text record
    simp only [List.cons_append, List.mem_cons, List.mem_append, slot_mem_descriptionSegments,
      reduceCtorEq, List.not_mem_nil, or_false, false_or, record, TypeBody.record.injEq]
    constructor
    · rintro ⟨nonempty, same⟩
      exact ⟨fields, text, ⟨rfl, rfl⟩, nonempty, same⟩
    · rintro ⟨_, _, ⟨rfl, rfl⟩, described⟩
      exact described
  · simp_all

theorem slot_mem_gatheredSegments {name : String} {parameters : List ParameterView} :
    .slot slot ∈ gatheredSegments name parameters ↔
      ∃ p ∈ parameters, slot = .wireName p.name := by
  simp [gatheredSegments]

/-- A method has a slot for its description, if there is one, for its path, and for the
names of the parameters that it sends beside the payload. -/
theorem slot_mem_operationSegments {operation : OperationView} :
    .slot slot ∈ operation.segments ↔
      (operation.description.isEmpty = false ∧ slot = .description operation.description) ∨
      slot = .path operation.path ∨
      ∃ p ∈ operation.parameters, p.kind ∈ [.path, .query, .header] ∧ slot = .wireName p.name := by
  have gathered : ∀ {name kind},
      .slot slot ∈ gatheredSegments name (operation.ofKind kind) ↔
        ∃ p ∈ operation.parameters, p.kind = kind ∧ slot = .wireName p.name := by
    intro name kind
    simp [slot_mem_gatheredSegments, OperationView.ofKind, and_assoc]
  have sent : (∃ p ∈ operation.parameters, p.kind ∈ [.path, .query, .header] ∧
        slot = .wireName p.name) ↔
      (∃ p ∈ operation.parameters, p.kind = .path ∧ slot = .wireName p.name) ∨
      (∃ p ∈ operation.parameters, p.kind = .query ∧ slot = .wireName p.name) ∨
      ∃ p ∈ operation.parameters, p.kind = .header ∧ slot = .wireName p.name := by
    simp only [← exists_or]
    refine exists_congr fun p => ?_
    simp only [List.mem_cons, List.not_mem_nil, or_false, or_and_right, and_or_left]
  rw [sent]
  simp only [OperationView.segments, List.cons_append, List.mem_cons, List.mem_append, gathered,
    slot_mem_descriptionSegments, reduceCtorEq, Segment.slot.injEq, List.not_mem_nil,
    false_or, or_false, or_assoc]

/-- A client has a slot for its title beside those of its types and operations. -/
theorem slot_mem_segments {view : View} : .slot slot ∈ view.segments ↔
    slot = .title view.title view.version ∨
      (∃ type ∈ view.types, .slot slot ∈ type.segments) ∨
      ∃ operation ∈ view.operations, .slot slot ∈ operation.segments := by
  simp [View.segments]

end TypedContract.Client
