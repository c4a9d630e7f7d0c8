/-
# TypedContract.Proofs.Fragments.Enriched -- enrichment does not show in a client

What a client is made from is the same for an enriched contract as for the contract before,
up to descriptions and annotations: the same types in the same order and the same operations
with the same parameters (`Fragments.ofContract_enriched`).  The two runs are compared step
by step, and each part of the program has one lemma in its order.

Two things are asked for.  The references of parameters, request bodies, responses and
headers lead to components of their kind: a response that refers into an example has a
type only once that example was written (`Fragments.ofContract_enriched_anywhere`).  And the
symbols offer what can be read again, documentation that is text and examples within the
limit of digits (`SymbolModel.Legible`).
-/
import TypedContract.Fragments
import TypedContract.Proofs.Enrichment.Outcome
import TypedContract.Proofs.Example.RoundTrip
import TypedContract.Proofs.Fragments.Naming
import TypedContract.Proofs.Signature.Following

namespace TypedContract

set_option autoImplicit false

open Contract (Part)

/-- Whatever enrichment looks up may be a reference. -/
theorem Contract.Part.referred_of_lookedUp (part : Part) (kind : Contract.Shared)
    (looked : part.lookedUp = some kind) : part.referred = some kind := by
  unfold Part.lookedUp at looked
  split at looked
  all_goals first | exact looked | cases looked

/-! ## Without descriptions -/

/-- A declaration without descriptions and annotations. -/
def TypeDeclaration.undescribed (declaration : TypeDeclaration) : TypeDeclaration :=
  { name := declaration.name, type := declaration.type.undescribed }

/-- The declarations differ in descriptions and annotations only. -/
def TypeDeclaration.Reworded (declaration declaration' : TypeDeclaration) : Prop :=
  declaration'.undescribed = declaration.undescribed

namespace Fragments

/-- The types and operations without descriptions and annotations. -/
def undescribed (fragments : Fragments) : Fragments :=
  { fragments with
    types := fragments.types.map TypeDeclaration.undescribed
    operations := fragments.operations.map Signature.undescribed }

/-- The fragments differ in descriptions and annotations only. -/
def Reworded (fragments fragments' : Fragments) : Prop :=
  fragments'.undescribed = fragments.undescribed

/-! ## Declarations -/

section

variable {offer : Offer} {contract : Json}

theorem givenNames_enriched {operations operations' : List Contract.Operation}
    (related : List.Forall₂ (Contract.Operation.Counterpart offer contract) operations operations') :
    givenNames operations' = givenNames operations := by
  unfold givenNames
  induction related with
  | nil => rfl
  | cons head tail ih =>
      rw [List.mapM_cons, List.mapM_cons, head.method, head.path, head.node.value_member rfl rfl, ih]

theorem functionNames_enriched {operations operations' : List Contract.Operation}
    (related : List.Forall₂ (Contract.Operation.Counterpart offer contract) operations operations') :
    functionNames operations' = functionNames operations := by
  have methods : operations'.map (·.method) = operations.map (·.method) :=
    map_eq_of_forall₂ (related.imp fun _ _ own => own.method)
  have given := givenNames_enriched related
  unfold givenNames at given
  unfold functionNames
  rw [given, methods]

variable (legible : offer.Legible)

include legible

theorem follows_fieldAnnotations (name : String) {properties properties' : Json}
    (enriched : properties.Enriched offer .properties properties')
    {found found' : List (String × List Annotation)} {fields fields' : List (Field Ty)}
    (named : List.Forall₂ (fun field field' : Field Ty => field'.name = field.name) fields fields') :
    Run.Follows (fun _ _ => True) (fieldAnnotations name properties found fields)
      (fieldAnnotations name properties' found' fields') := by
  induction named generalizing found found' with
  | nil => exact .pure trivial
  | cons head tail ih =>
      unfold fieldAnnotations
      rw [head]
      refine .bind (.of_agree (enriched.member rfl)) fun property property' own => ?_
      rw [own.isNull]
      split
      · exact ih
      · exact .bind (Example.follows_annotationsFor own legible fun which => by cases which <;> rfl)
          fun _ _ _ => ih

theorem follows_declaration (name : String) {schemas schemas' : Json}
    (enriched : schemas.Enriched offer .schemas schemas') {type type' : Ty}
    (same : type.Reworded type') :
    Run.Follows TypeDeclaration.Reworded (declaration schemas name type)
      (declaration schemas' name type') := by
  have declared {annotations annotations' : List Annotation}
      {fields fields' : List (String × List Annotation)} :
      TypeDeclaration.Reworded ⟨name, type, annotations, fields⟩ ⟨name, type', annotations', fields'⟩ := by
    unfold TypeDeclaration.Reworded TypeDeclaration.undescribed
    rw [same]
  unfold declaration
  refine .bind (.of_agree (enriched.member rfl)) fun raw raw' own => ?_
  rw [own.isNull]
  split
  · exact .pure declared
  · have annotated : Run.Follows (fun _ _ => True) (Example.annotationsFor raw name)
        (Example.annotationsFor raw' name) :=
      Example.follows_annotationsFor own legible fun which => by cases which <;> rfl
    rcases same.record_or with ⟨_, _, fields, fields', _, _, rfl, rfl, named⟩ | ⟨other, other'⟩
    · refine .bind (.of_agree (own.member rfl)) fun properties properties' inside => ?_
      refine .bind (follows_fieldAnnotations legible name (inside.orElse rfl) named) fun _ _ _ => ?_
      exact .bind annotated fun _ _ _ => .pure declared
    · cases type with
      | record _ _ _ => cases other
      | _ =>
          cases type' with
          | record _ _ _ => cases other'
          | _ =>
              exact .bind (.pure (Eq.refl ([] : List (String × List Annotation)))) fun _ _ _ =>
                .bind annotated fun _ _ _ => .pure declared

/-! ## Operations -/

theorem follows_signatures {builder builder' : SignatureBuilder}
    (follows : builder.EnrichedTo offer contract builder')
    {operations operations' : List Contract.Operation}
    (related : List.Forall₂ (Contract.Operation.Counterpart offer contract) operations operations')
    (names : List String) :
    Run.Follows (List.Forall₂ Signature.Reworded) (signatures builder (names.zip operations))
      (signatures builder' (names.zip operations')) := by
  induction related generalizing names with
  | nil =>
      rw [List.zip_nil_right]
      exact .pure .nil
  | @cons operation operation' rest rest' head tail ih =>
      obtain ⟨path, method, node, shared⟩ := operation
      obtain ⟨path', method', node', shared'⟩ := operation'
      obtain ⟨rfl, rfl, nodes, shareds⟩ := head
      cases names with
      | nil => exact .pure .nil
      | cons name names =>
          refine .bind (SignatureBuilder.follows_build legible follows name method' path' nodes shareds)
            fun built built' own => ?_
          cases own with
          | none => exact .bind .note fun _ _ _ => ih names
          | some own => exact .bind (ih names) fun _ _ others => .pure (.cons own others)

/-! ## The whole -/

/-- The fragments of an enriched contract are those of the contract, up to descriptions and
annotations. -/
theorem follows_ofContract {enriched : Json} (refers : contract.refersInto Part.referred = true)
    (own : contract.Enriched offer .contract enriched) (configuration : Configuration) :
    Run.Follows Reworded (ofContract (.root 0 contract) configuration)
      (ofContract (.root 0 enriched) configuration) := by
  have root := Node.Counterpart.root own
  unfold ofContract
  refine .bind (Translator.follows_create legible root) fun translator translator' translates => ?_
  refine .bind (Translator.follows_components translates) fun _ _ _ => ?_
  refine .bind (.of_agree (Contract.agree_operations root)) fun operations operations' related => ?_
  refine .read (functionNames_enriched related) fun names _ => ?_
  refine .read (root.value_member rfl rfl) fun info _ => ?_
  refine .read rfl fun title _ => .read rfl fun version _ => ?_
  have builds : SignatureBuilder.EnrichedTo offer contract
      ⟨.root 0 contract, translator, configuration⟩
      ⟨.root 0 enriched, translator', configuration⟩ :=
    ⟨refers, rfl, ⟨enriched, rfl, own⟩, translates, rfl⟩
  refine .bind (follows_signatures legible builds related names) fun built built' signatures => ?_
  refine .bind .registry fun registry registry' reworded => ?_
  rw [reworded.dangling]
  refine .bind (.forM fun _ => .report) fun _ _ _ => ?_
  refine .bind .registry fun registry registry' reworded => ?_
  have declares {entry entry' : String × Ty}
      (own : entry'.1 = entry.1 ∧ entry.2.Reworded entry'.2) :
      Run.Follows TypeDeclaration.Reworded
        (declaration translator.schemas.value entry.1 entry.2)
        (declaration translator'.schemas.value entry'.1 entry'.2) := by
    rw [own.1]
    exact follows_declaration legible entry.1 translates.schemas.value own.2
  refine .bind (.mapM reworded.entries fun _ _ own => declares own) fun types types' declared => ?_
  refine .bind .get fun _ _ _ => .bind .note fun _ _ _ => .pure ?_
  unfold Reworded undescribed
  simp only
  rw [map_eq_of_forall₂ declared, map_eq_of_forall₂ signatures]

end

end Fragments

/-! ## What a source offers -/

/-- The documentation of the symbols is text and their examples hold no integer with too
many digits. -/
structure SymbolModel.Legible (model : SymbolModel) : Prop where
  documentation : ∀ symbol ∈ model.symbols, ∃ words, symbol.facts.documentation = .str words
  examples : ∀ symbol ∈ model.symbols, ∀ which value,
    Example.annotated? symbol.annotations which = .ok (some value) →
      (Literal.ofJson value).isWithinDigits = true

/-- A check that the symbols are legible. -/
def SymbolModel.isLegible (model : SymbolModel) : Bool :=
  model.symbols.all fun symbol =>
    (match symbol.facts.documentation with
      | .str _ => true
      | _ => false) &&
    [Example.Which.example, .examples].all fun which =>
      match Example.annotated? symbol.annotations which with
      | .ok (some value) => (Literal.ofJson value).isWithinDigits
      | _ => true

theorem SymbolModel.legible_of_isLegible {model : SymbolModel} (checked : model.isLegible = true) :
    model.Legible := by
  have each {symbol : Symbol} (member : symbol ∈ model.symbols) :=
    Bool.and_eq_true_iff.1 (List.all_eq_true.1 checked symbol member)
  refine ⟨fun symbol member => ?_, fun symbol member which value annotated => ?_⟩
  · have isText := (each member).1
    split at isText
    · exact ⟨_, ‹_›⟩
    · cases isText
  · have fits := List.all_eq_true.1 (each member).2 which (by cases which <;> decide)
    rw [annotated] at fits
    exact fits

/-- What such symbols offer can be read again. -/
theorem SymbolModel.Legible.offer {model : SymbolModel} (legible : model.Legible) :
    model.offer.Legible := by
  refine ⟨?_, ?_, ?_⟩
  · rintro text ⟨-, symbol, member, rfl⟩
    exact legible.documentation symbol member
  · rintro which value ⟨symbol, member, annotated⟩
    exact legible.examples symbol member which value annotated
  · rintro value ⟨symbol, member, annotated⟩ rfl
    obtain ⟨text?, -, found⟩ := except_bind_eq_ok.1 annotated
    cases text? with
    | none => cases except_pure_eq_ok.1 found
    | some text =>
        obtain ⟨value, decoded, same⟩ := except_bind_eq_ok.1 found
        cases except_pure_eq_ok.1 same
        obtain ⟨value, -, checked⟩ := except_bind_eq_ok.1 decoded
        obtain ⟨_, named, same⟩ := except_bind_eq_ok.1 checked
        cases except_pure_eq_ok.1 same
        cases named

/-! ## Before and after -/

namespace Fragments

open Enrichment (enrich)

variable {symbols : SymbolModel} {draft draft' : Draft} {configuration : Configuration}
  {s t : Session} {fragments : Fragments}

/-- When a contract yields fragments and is enriched from a legible source, the enriched
contract yields the same fragments up to descriptions and annotations. -/
theorem ofContract_enriched (refers : draft.document.refersInto Part.referred = true)
    (legible : symbols.Legible) (enriches : Edit.Returns (enrich symbols) draft () draft')
    (returned : Run.Returns (ofContract (.root 0 draft.document) configuration) s fragments t) :
    ∃ fragments' t', Run.Returns (ofContract (.root 0 draft'.document) configuration) s fragments' t' ∧
      fragments'.undescribed = fragments.undescribed := by
  have looked : draft.document.refersInto Part.lookedUp = true :=
    Json.refersInto_mono Part.referred_of_lookedUp refers
  obtain ⟨plan, sited, made⟩ := Enrichment.exists_plan looked enriches
  have own : draft.document.Enriched symbols.offer .contract draft'.document := by
    rw [made]
    exact Contract.carryOut_enriched sited (.refl _ _)
  obtain ⟨fragments', t', returned', same, -⟩ :=
    (follows_ofContract legible.offer refers own configuration).keeps (.refl s) returned
  exact ⟨fragments', t', returned', same⟩

/-! ### A contract with shared parts -/

/-- Pets, listed up to a shared limit, with a response that is a reference. -/
def sharing (response : String) : Json := .object [
  ("paths", .object [("/pets", .object [("get", .object [
    ("operationId", .str "listPets"),
    ("parameters", .list [.object [("$ref", .str "#/components/parameters/limit")]]),
    ("responses", .object [("200", .object [("$ref", .str response)])])])])]),
  ("components", .object [
    ("schemas", .object [("Pet", .object [
      ("properties", .object [("name", .object [("type", .str "string")])])])]),
    ("parameters", .object [("limit", .object [("name", .str "limit"), ("in", .str "query")])]),
    ("responses", .object [("Pet", .object [("content", .object [("application/json",
      .object [("schema", .object [("$ref", .str "#/components/schemas/Pet")])])])])])])]

/-- Pets whose example reads like a response. -/
def sharingSymbols : SymbolModel where
  types := [("Pet", .mk
    { name := .str "Pet", kind := .type, documentation := .str "A pet",
      annotations := [Example.annotationOf .example
        "\x7b'content': \x7b'text/plain': \x7b'schema': \x7b'type': 'string'\x7d\x7d\x7d\x7d"] }
    [("name", .mk
      { name := .str "name", kind := .field, documentation := .str "The name" } [])])]
  functions := [{
    operationId := .str "listPets"
    parameters := [.mk
      { name := .str "limit", kind := .parameter,
        type := some ⟨.str "int", .str "builtins", true, false⟩,
        annotations := [Example.annotationOf .example "10"] } []] }]

theorem ofContract_enriched_sharing : ∃ draft' fragments t fragments' t',
    Edit.Returns (enrich sharingSymbols) { document := sharing "#/components/responses/Pet" } () draft' ∧
    Run.Returns (ofContract (.root 0 (sharing "#/components/responses/Pet")) {}) {} fragments t ∧
    fragments.operations.map (·.returnType.isSome) = [true] ∧
    Run.Returns (ofContract (.root 0 draft'.document) {}) {} fragments' t' ∧
    fragments'.undescribed = fragments.undescribed := by
  have enrichable : ((enrich sharingSymbols).passes
      { document := sharing "#/components/responses/Pet" } fun _ _ => true) = true := by decide +kernel
  have mappable : ((ofContract (.root 0 (sharing "#/components/responses/Pet")) {}).passes {}
      fun fragments _ => fragments.operations.map (·.returnType.isSome) == [true]) = true := by
    decide +kernel
  obtain ⟨_, draft', enriches, -⟩ := Edit.exists_returns_of enrichable
  obtain ⟨fragments, t, returned, given⟩ := Run.exists_returns_of mappable
  obtain ⟨fragments', t', returned', same⟩ := ofContract_enriched (by decide +kernel)
    (SymbolModel.legible_of_isLegible (by decide +kernel)) enriches returned
  exact ⟨draft', fragments, t, fragments', t', enriches, returned, eq_of_beq given, returned', same⟩

/-- Where a response refers into a schema, an example may come to be read as a response: the
operation returns nothing before and a text after. -/
theorem ofContract_enriched_anywhere :
    (sharing "#/components/schemas/Pet/example").refersInto Part.lookedUp = true ∧
    sharingSymbols.Legible ∧ ∃ draft' fragments t fragments' t',
      Edit.Returns (enrich sharingSymbols)
        { document := sharing "#/components/schemas/Pet/example" } () draft' ∧
      Run.Returns (ofContract (.root 0 (sharing "#/components/schemas/Pet/example")) {}) {}
        fragments t ∧
      Run.Returns (ofContract (.root 0 draft'.document) {}) {} fragments' t' ∧
      fragments.operations.map (·.returnType.isSome) = [false] ∧
      fragments'.operations.map (·.returnType.isSome) = [true] ∧
      fragments'.undescribed ≠ fragments.undescribed := by
  have both : ((enrich sharingSymbols).passes
      { document := sharing "#/components/schemas/Pet/example" } fun _ after =>
        (ofContract (.root 0 after.document) {}).passes {} fun fragments _ =>
          fragments.operations.map (·.returnType.isSome) == [true]) = true := by decide +kernel
  have mappable : ((ofContract (.root 0 (sharing "#/components/schemas/Pet/example")) {}).passes {}
      fun fragments _ => fragments.operations.map (·.returnType.isSome) == [false]) = true := by
    decide +kernel
  obtain ⟨_, draft', enriches, after⟩ := Edit.exists_returns_of both
  obtain ⟨fragments', t', returned', given'⟩ := Run.exists_returns_of after
  obtain ⟨fragments, t, returned, given⟩ := Run.exists_returns_of mappable
  have before : fragments.operations.map (·.returnType.isSome) = [false] := eq_of_beq given
  have after : fragments'.operations.map (·.returnType.isSome) = [true] := eq_of_beq given'
  have refers : (sharing "#/components/schemas/Pet/example").refersInto Part.lookedUp = true := by
    decide +kernel
  have legible : sharingSymbols.Legible := SymbolModel.legible_of_isLegible (by decide +kernel)
  have apart : fragments'.undescribed ≠ fragments.undescribed := by
    intro same
    have typed := congrArg (fun f : Fragments => f.operations.map (·.returnType.isSome)) same
    simp only [undescribed, List.map_map, Function.comp_def, Signature.undescribed,
      Option.isSome_map] at typed
    rw [before, after] at typed
    cases typed
  exact ⟨refers, legible, draft', fragments, t, fragments', t', enriches, returned, returned', before,
    after, apart⟩

end Fragments

end TypedContract
