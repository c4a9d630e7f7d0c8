/-
# TypedContract.Proofs.Enrichment.Outcome -- what an enrichment leaves behind

An enrichment that returns has written examples and missing descriptions and nothing
else (`enrich_enriched`), and enriching its result once more writes the same again and
reports the same again (`enrich_again`).  Both follow from the plan that a run carries
out, which is sited in the contract and the same in every later run.
-/
import TypedContract.Proofs.Enrichment.Steps

namespace TypedContract.Enrichment

set_option autoImplicit false

open Contract (Part)

/-! ## A contract and a source to try things on -/

section

/-- An annotation with one literal. -/
private def tagged (name literal : String) : Annotation :=
  ⟨⟨"openapi", name, []⟩, [("value", literal)]⟩

/-- A type of the data that a contract describes. -/
private def data : TypeDescriptor := ⟨.str "str", .str "builtins", true, false⟩

/-- Pets with a name, listed by tag and up to a limit that is shared. -/
def pets : Json := .object [
  ("paths", .object [("/pets", .object [("get", .object [
    ("operationId", .str "listPets"),
    ("parameters", .list [
      .object [("$ref", .str "#/components/parameters/limit")],
      .object [("name", .str "tag"), ("in", .str "query")]])])])]),
  ("components", .object [
    ("schemas", .object [("Pet", .object [
      ("properties", .object [("name", .object [("type", .str "string")])])])]),
    ("parameters", .object [("limit", .object [
      ("name", .str "limit"), ("in", .str "query"), ("description", .str "At most so many")])])])]

/-- Pets, with examples and documentation, and one literal that cannot be read. -/
def petSymbols : SymbolModel where
  types := [("Pet", .mk
    { name := .str "Pet", kind := .type, documentation := .str "A pet" }
    [("name", .mk { name := .str "name", kind := .field, annotations := [tagged "Example" "'Rex'"] } [])])]
  functions := [{
    operationId := .str "listPets"
    parameters := [
      .mk { name := .str "limit", kind := .parameter, type := some data,
            annotations := [tagged "Example" "10"], documentation := .str "Limit" } [],
      .mk { name := .str "tag", kind := .parameter, type := some data,
            annotations := [tagged "Example" "1 +"], documentation := .str "Only this tag" } []] }]

/-- The pets with what their symbols have to say. -/
def enrichedPets : Json := .object [
  ("paths", .object [("/pets", .object [("get", .object [
    ("operationId", .str "listPets"),
    ("parameters", .list [
      .object [("$ref", .str "#/components/parameters/limit")],
      .object [("name", .str "tag"), ("in", .str "query"),
        ("description", .str "Only this tag")]])])])]),
  ("components", .object [
    ("schemas", .object [("Pet", .object [
      ("properties", .object [("name", .object [("type", .str "string"), ("example", .str "Rex")])]),
      ("description", .str "A pet")])]),
    ("parameters", .object [("limit", .object [
      ("name", .str "limit"), ("in", .str "query"), ("description", .str "At most so many"),
      ("example", .int 10)])])])]

end

/-! ## Once -/

variable {symbols : SymbolModel} {draft draft' : Draft}

/-- An enrichment carries out a plan that is sited in the document before. -/
theorem exists_plan (refers : draft.document.refersInto Part.lookedUp = true)
    (returned : Edit.Returns (enrich symbols) draft () draft') :
    ∃ plan, (∀ effect ∈ plan, effect.Sited symbols.offer draft.document) ∧
      draft'.document = Contract.carryOut plan draft.document := by
  obtain ⟨_, _, plan, reports, -, -, sited, made, -⟩ :=
    parallel_enrich refers _ _ _ _ (.refl _ _) (.refl _ _) returned
  exact ⟨plan, sited, made.document⟩

/-- An enrichment changes nothing but examples and missing descriptions: the document
after is the document before, enriched with what the symbols offer. -/
theorem enrich_enriched (refers : draft.document.refersInto Part.lookedUp = true)
    (returned : Edit.Returns (enrich symbols) draft () draft') :
    draft.document.Enriched symbols.offer .contract draft'.document := by
  obtain ⟨plan, sited, made⟩ := exists_plan refers returned
  rw [made]
  exact Contract.carryOut_enriched sited (.refl _ _)

/-- Enriched pets are pets with more to say. -/
theorem enrich_enriched_pets : ∃ draft', Edit.Returns (enrich petSymbols) { document := pets } () draft' ∧
    draft'.document.same enrichedPets = true ∧
    pets.Enriched petSymbols.offer .contract draft'.document := by
  have ok : ((enrich petSymbols).passes { document := pets } fun _ after =>
      after.document.same enrichedPets) = true := by decide +kernel
  obtain ⟨_, draft', returned, same⟩ := Edit.exists_returns_of ok
  have refers : pets.refersInto Part.lookedUp = true := by decide +kernel
  exact ⟨draft', returned, same, enrich_enriched refers returned⟩

/-! ## And again -/

/-- Enriching a second time leaves the document as it is and reports what was reported the
first time. -/
theorem enrich_again (refers : draft.document.refersInto Part.lookedUp = true)
    (returned : Edit.Returns (enrich symbols) draft () draft') :
    ∃ reports, draft'.diagnostics = draft.diagnostics ++ reports ∧
      ∀ again : Draft, again.document = draft'.document →
        ∃ after, Edit.Returns (enrich symbols) again () after ∧
          after.document = draft'.document ∧
          after.diagnostics = again.diagnostics ++ reports := by
  obtain ⟨_, _, _, reports, -, -, planned, first, -⟩ :=
    parallel_enrich refers _ _ _ _ (.refl _ _) (.refl _ _) returned
  refine ⟨reports, first.diagnostics, fun again same => ?_⟩
  have between : draft.document.Enriched symbols.offer .contract again.document := by
    rw [same, first.document]
    exact Contract.carryOut_enriched planned (.refl _ _)
  obtain ⟨_, after, plan, reports', returned', -, sited, made, made'⟩ :=
    parallel_enrich refers _ _ _ _ (.refl _ _) between returned
  obtain rfl : reports' = reports :=
    List.append_cancel_left (made.diagnostics.symm.trans first.diagnostics)
  refine ⟨after, returned', ?_, made'.diagnostics⟩
  calc after.document
      _ = Contract.carryOut plan (Contract.carryOut plan draft.document) := by
        rw [made'.document, same, made.document]
      _ = Contract.carryOut plan draft.document := Contract.carryOut_carryOut sited (.refl _ _)
      _ = draft'.document := made.document.symm

/-- Pets that were enriched are enriched. -/
theorem enrich_again_pets : ∃ draft' after, draft'.document.same enrichedPets = true ∧
    draft'.diagnostics.length = 1 ∧ Edit.Returns (enrich petSymbols) draft' () after ∧
    after.document = draft'.document ∧
    after.diagnostics = draft'.diagnostics ++ draft'.diagnostics := by
  have ok : ((enrich petSymbols).passes { document := pets } fun _ after =>
      after.document.same enrichedPets && after.diagnostics.length == 1) = true := by decide +kernel
  obtain ⟨_, draft', returned, found⟩ := Edit.exists_returns_of ok
  rw [Bool.and_eq_true, beq_iff_eq] at found
  have refers : pets.refersInto Part.lookedUp = true := by decide +kernel
  obtain ⟨reports, reported, again⟩ := enrich_again refers returned
  obtain ⟨after, returned', document, diagnostics⟩ := again draft' rfl
  rw [List.nil_append] at reported
  exact ⟨draft', after, found.1, found.2, returned', document, reported ▸ diagnostics⟩

end TypedContract.Enrichment
