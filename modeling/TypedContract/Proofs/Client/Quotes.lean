/-
# TypedContract.Proofs.Client.Quotes -- texts of the contract stay between their quotes

At each slot of a client for a text of the contract a literal has to stand: it ends at the
quotes that the client puts behind the text, and a path or a wire name has to be what the
literal denotes.  Whether it does depends on the text alone, not on what follows it
(`Slot.holds_iff`).  Three quotes in a row become harmless in a description, which can still
run over its end; in the heading they are taken over as they are, and paths and wire names
are not escaped at all (`Fragments.slotsHold_iff`).
-/
import TypedContract.Proofs.Client.Segments
import TypedContract.Proofs.Literal.Delimited
import TypedContract.Proofs.Returning

namespace TypedContract

set_option autoImplicit false

open Literal.Token

namespace Client

/-! ## Softened quotes -/

theorem exists_of_softened {text rest : List Char} (same : softened text = '"' :: rest) :
    ∃ more, text = '"' :: more ∧ rest = softened more := by
  rw [softened.eq_def] at same
  split at same
  · cases same
  · cases same
    exact ⟨_, rfl, rfl⟩
  · cases same

theorem not_isInfix_softened (text : List Char) : ¬ quotes true <:+: softened text := by
  fun_induction softened text with
  | case1 more ih => simpa [quotes, List.infix_cons_iff] using ih
  | case2 c rest apart ih =>
      intro inside
      rcases List.infix_cons_iff.1 inside with ⟨others, starts⟩ | later
      · obtain ⟨rfl, second⟩ := List.cons.inj starts
        obtain ⟨tail, rfl, third⟩ := exists_of_softened second.symm
        obtain ⟨tail, rfl, -⟩ := exists_of_softened third.symm
        exact apart tail rfl rfl
      · exact ih later
  | case3 => simp [quotes]

/-- A description has no three quotes in a row between its own. -/
theorem isTripleFree_softened (text : List Char) :
    isTripleFree (unifyLines (softened text)) = true :=
  isTripleFree_of_not_isInfix fun inside => not_isInfix_softened text (isInfix_of_unifyLines inside)

/-! ## Slots that hold -/

/-- The text that the literal at a slot has to denote. -/
def Slot.denoted? : Slot → Option String
  | .title _ _ | .description _ => none
  | .path text | .wireName text => some text

/-- Where the rest of the module follows, the literal ends at the slot, and it denotes what
it has to. -/
def Slot.Holds (slot : Slot) (rest : List Char) : Prop :=
  ∃ body, LiteralAt (slot.literal.toList ++ (slot.mark.toList ++ rest))
      (slot.mark.toList ++ rest) body ∧
    ∀ text, slot.denoted? = some text → unescape? body.length body = some text.toList

/-- The text of the contract can stand at its slot. -/
def Slot.IsSafe : Slot → Prop
  | .title name version =>
      let shown := unifyLines (headingText name version).toList
      isTripleFree shown = true ∧ WellFormed shown
  | .description text =>
      let shown := unifyLines (softened text.toList)
      endsWell shown = true ∧ WellFormed shown
  | .path text | .wireName text => isVerbatim text.toList = true

/-- The heading ends with a line of its own. -/
theorem endsWell_heading (name : Json) (version : String) :
    endsWell (unifyLines (headingText name version).toList) = true := by
  have line : ".\n\nGenerated by oasbridge. Do not edit.\n".toList =
      ".\n\nGenerated by oasbridge. Do not edit".toList ++ ['.', '\n'] := rfl
  rw [headingText, String.toList_append, line, ← List.append_assoc, unifyLines_append (by decide)]
  exact endsWell_append (by simp [unifyLines]) (by simp [unifyLines])

section Holding

variable {slot : Slot} {rest : List Char}

theorem holds_between_triple {text : List Char}
    (literal : slot.literal.toList = "\"\"\"".toList ++ text ++ "\"\"\"".toList)
    (free : slot.denoted? = none) : slot.Holds rest ↔
      isTripleFree (unifyLines text) = true ∧ endsWell (unifyLines text) = true ∧
        WellFormed (unifyLines text) := by
  simp only [Slot.Holds, literal, free, reduceCtorEq, false_implies, implies_true, and_true]
  exact exists_literalAt_iff

theorem holds_between_double {text : String} (literal : slot.literal = doubleQuoted text)
    (apart : (slot.mark.toList ++ rest).head? ≠ some '"') (denoted : slot.denoted? = some text) :
    slot.Holds rest ↔ isVerbatim text.toList = true := by
  have between : ∀ after : List Char, slot.literal.toList ++ after =
      '"' :: text.toList ++ '"' :: after := by
    intro after
    simp [literal, doubleQuoted]
  simp only [Slot.Holds, between, denoted, Option.some.injEq, forall_eq']
  exact exists_literalAt_denoting_iff apart

end Holding

/-- Whether a slot holds is a matter of its text. -/
theorem Slot.holds_iff (slot : Slot) (rest : List Char) : slot.Holds rest ↔ slot.IsSafe := by
  cases slot with
  | title name version =>
      have literal : (Slot.title name version).literal.toList =
          "\"\"\"".toList ++ (headingText name version).toList ++ "\"\"\"".toList := by
        simp only [Slot.literal, String.toList_append]
      rw [holds_between_triple literal rfl]
      simp only [endsWell_heading, true_and, Slot.IsSafe]
  | description text =>
      have literal : (Slot.description text).literal.toList =
          "\"\"\"".toList ++ softened text.toList ++ "\"\"\"".toList := by
        simp only [Slot.literal, docstring, String.toList_append, String.toList_ofList]
      rw [holds_between_triple literal rfl]
      simp only [isTripleFree_softened, true_and, Slot.IsSafe]
  | path text => exact holds_between_double rfl (by simp [Slot.mark]) rfl
  | wireName text => exact holds_between_double rfl (by simp [Slot.mark]) rfl

/-- Nothing can be wrong with a description that is left out. -/
theorem Slot.isSafe_of_isEmpty {text : String} (empty : text.isEmpty = true) :
    (Slot.description text).IsSafe := by
  obtain rfl := String.isEmpty_iff.1 empty
  exact ⟨rfl, .nil, List.not_mem_nil⟩

/-- Every slot of the client holds. -/
def View.SlotsHold (view : View) : Prop :=
  ∀ before slot after, view.segments = before ++ .slot slot :: after →
    slot.Holds (written after).toList

theorem View.slotsHold_iff_forall {view : View} :
    view.SlotsHold ↔ ∀ slot, .slot slot ∈ view.segments → slot.IsSafe := by
  constructor
  · intro hold slot member
    obtain ⟨before, after, same⟩ := List.append_of_mem member
    exact (slot.holds_iff _).1 (hold before slot after same)
  · intro safe before slot after same
    exact (slot.holds_iff _).2 (safe slot (same ▸ by simp))

theorem slot_mem_typeView {slot : Slot} {declared : TypeDeclaration} :
    .slot slot ∈ (typeView declared).segments ↔
      ∃ name fields text, declared.type = .record name fields text ∧ text.isEmpty = false ∧
        slot = .description text := by
  rw [slot_mem_typeSegments]
  cases type : declared.type <;> simp [typeView, type]

end Client

namespace Fragments

open Client

/-- Every text of the contract can stand at its slot. -/
structure TextsSafe (fragments : Fragments) : Prop where
  title : (Slot.title fragments.title fragments.version).IsSafe
  records : ∀ declared ∈ fragments.types, ∀ name fields text,
    declared.type = .record name fields text → (Slot.description text).IsSafe
  descriptions : ∀ signature ∈ fragments.operations, (Slot.description signature.description).IsSafe
  paths : ∀ signature ∈ fragments.operations, (Slot.path signature.path).IsSafe
  wireNames : ∀ signature ∈ fragments.operations, ∀ p ∈ signature.parameters,
    p.kind ∈ [.path, .query, .header] → (Slot.wireName p.name).IsSafe

/-- The text of a client is made of its segments, and the slots among them hold exactly
when every text of the contract can stand at its slot. -/
theorem slotsHold_iff (fragments : Fragments) (configuration : Configuration) :
    (view fragments configuration).source = written (view fragments configuration).segments ∧
      ((view fragments configuration).SlotsHold ↔ fragments.TextsSafe) := by
  refine ⟨View.source_eq_written _,
    View.slotsHold_iff_forall.trans ⟨fun safe => ?_, fun safe slot inside => ?_⟩⟩
  · have title := safe _ (slot_mem_segments.2 (.inl rfl))
    have type : ∀ declared ∈ fragments.types, ∀ slot,
        .slot slot ∈ (typeView declared).segments → slot.IsSafe :=
      fun declared member slot inside =>
        safe slot (slot_mem_segments.2 (.inr (.inl ⟨_, List.mem_map_of_mem member, inside⟩)))
    have operation : ∀ signature ∈ fragments.operations, ∀ slot,
        .slot slot ∈ (operationView signature).segments → slot.IsSafe :=
      fun signature member slot inside =>
        safe slot (slot_mem_segments.2 (.inr (.inr ⟨_, List.mem_map_of_mem member, inside⟩)))
    refine ⟨title, fun declared member name fields text record => ?_, fun signature member => ?_,
      fun signature member => ?_, fun signature member p held sent => ?_⟩
    · -- an empty text is not written at all
      cases empty : text.isEmpty with
      | true => exact Slot.isSafe_of_isEmpty empty
      | false =>
          exact type declared member _
            (slot_mem_typeView.2 ⟨name, fields, text, record, empty, rfl⟩)
    · cases empty : signature.description.isEmpty with
      | true => exact Slot.isSafe_of_isEmpty empty
      | false =>
          exact operation signature member _ (slot_mem_operationSegments.2 (.inl ⟨empty, rfl⟩))
    · exact operation signature member _ (slot_mem_operationSegments.2 (.inr (.inl rfl)))
    · exact operation signature member _ (slot_mem_operationSegments.2 (.inr (.inr
        ⟨parameterView p, List.mem_map_of_mem held, sent, rfl⟩)))
  · rcases slot_mem_segments.1 inside with rfl | ⟨_, member, inside⟩ | ⟨_, member, inside⟩
    · exact safe.title
    · obtain ⟨declared, declares, rfl⟩ := List.mem_map.1 member
      obtain ⟨name, fields, text, record, -, rfl⟩ := slot_mem_typeView.1 inside
      exact safe.records declared declares name fields text record
    · obtain ⟨signature, signs, rfl⟩ := List.mem_map.1 member
      rcases slot_mem_operationSegments.1 inside with ⟨-, rfl⟩ | rfl | ⟨_, has, sent, rfl⟩
      · exact safe.descriptions signature signs
      · exact safe.paths signature signs
      · obtain ⟨p, held, rfl⟩ := List.mem_map.1 has
        exact safe.wireNames signature signs p held sent

/-- An operation with a quote in its path. -/
def quotedPathContract : Json :=
  .object [("paths", .object [("/a\"b", .object [("get", .object [])])])]

/-- The literal of the path ends before the text does. -/
theorem slots_break : ∃ fragments t,
    Run.Returns (ofContract (.root 0 quotedPathContract) {}) {} fragments t ∧
    ¬ (view fragments {}).SlotsHold := by
  have ok : ((ofContract (.root 0 quotedPathContract) {}).passes {} fun fragments _ =>
      (view fragments {}).operations.any fun operation =>
        operation.path == "/a\"b") = true := by decide +kernel
  obtain ⟨fragments, t, returned, named⟩ := Run.exists_returns_of ok
  refine ⟨fragments, t, returned, fun hold => ?_⟩
  obtain ⟨operation, member, named⟩ := List.any_eq_true.1 named
  have slot : .slot (.path operation.path) ∈ (view fragments {}).segments :=
    slot_mem_segments.2 (.inr (.inr ⟨operation, member,
      slot_mem_operationSegments.2 (.inr (.inl rfl))⟩))
  have safe : isVerbatim operation.path.toList = true := View.slotsHold_iff_forall.1 hold _ slot
  rw [eq_of_beq named] at safe
  revert safe
  decide +kernel

end Fragments

end TypedContract
