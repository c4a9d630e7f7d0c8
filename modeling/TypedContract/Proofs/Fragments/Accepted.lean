/-
# TypedContract.Proofs.Fragments.Accepted -- contracts that both directions accept

A contract from which a client is made can be walked: its components and operations can be
listed, and so can the identifiers and the parameters of each operation
(`walks_of_ofContract`).  An enrichment of such a contract may still fault.  It comes back
exactly when the symbols fit (`enriches_iff_of_ofContract`).

The two directions do not look at the same parts.  Where a client is made, a path item that
is no object has no operations; an enrichment asks it for its parameters and faults
(`null_item_not_enriched`).
-/
import TypedContract.Proofs.Enrichment.Fits
import TypedContract.Proofs.Enrichment.Outcome
import TypedContract.Proofs.Fragments.Naming
import TypedContract.Proofs.Translation.Translator

namespace TypedContract

set_option autoImplicit false

open Contract (Part)

/-! ## Operations that were tried -/

theorem Node.orElse_orElse {node : Node} {fallback : Json} :
    (node.orElse fallback).orElse fallback = node.orElse fallback := by
  by_cases counts : node.value.truthy = true
  · have own : node.orElse fallback = node := if_pos counts
    rw [own]
    exact own
  · have free : node.orElse fallback = .free fallback := if_neg counts
    rw [free]
    exact ite_self _

/-- A first question has an answer, whether the operation is given up or not. -/
theorem Mapping.exists_of_returns_read {α β : Type} {reading : Except Fault β}
    {next : β → Mapping α} {s t : Session} {found : Option α}
    (returned : Run.Returns (Mapping.lift reading >>= next).run s found t) :
    ∃ b, reading = .ok b ∧ Run.Returns (next b).run s found t := by
  rw [OptionT.run_bind] at returned
  obtain ⟨result, u, first, rest⟩ := Run.returns_bind.1 returned
  rw [Mapping.lift, OptionT.run_lift] at first
  obtain ⟨b, v, answered, same⟩ := Run.returns_bind.1 first
  obtain ⟨read, rfl⟩ := Run.returns_lift.1 answered
  obtain ⟨rfl, rfl⟩ := Run.returns_pure.1 same
  exact ⟨b, read, rest⟩

namespace SignatureBuilder

variable {builder : SignatureBuilder} {functionName method path : String} {operation shared : Node}
  {s t : Session}

/-- The parameters of an operation that was tried can be listed, and so can those of its
path. -/
theorem exists_elements_of_build {signature? : Option Signature}
    (returned : Run.Returns (builder.build functionName method path operation shared) s
      signature? t) :
    (∃ more, (shared.orElse (.list [])).elements = .ok more) ∧
      ∃ own, Enrichment.ownParameters operation = .ok own := by
  unfold build at returned
  obtain ⟨_, _, -, returned⟩ := Run.returns_bind.1 returned
  obtain ⟨found, u, searched, -⟩ := Run.returns_bind.1 returned
  unfold candidates at searched
  rw [OptionT.run_bind] at searched
  obtain ⟨declared?, v, declared, -⟩ := Run.returns_bind.1 searched
  obtain ⟨more, listed, further⟩ := Mapping.exists_of_returns_read declared
  obtain ⟨own, walked, -⟩ := Mapping.exists_of_returns_read further
  exact ⟨⟨more, listed⟩, own, walked⟩

end SignatureBuilder

namespace Fragments

variable {document : Node} {contract : Json} {configuration : Configuration} {s t : Session}
  {fragments : Fragments}

/-- Each operation was tried. -/
theorem exists_build_of_signatures {builder : SignatureBuilder}
    {operations : List (String × Contract.Operation)} {s t : Session} {built : List Signature}
    (returned : Run.Returns (signatures builder operations) s built t) :
    ∀ entry ∈ operations, ∃ u signature? v, Run.Returns
      (builder.build entry.1 entry.2.method entry.2.path entry.2.node entry.2.shared) u
        signature? v := by
  induction operations generalizing s t built with
  | nil => nofun
  | cons entry rest ih =>
      unfold signatures at returned
      obtain ⟨found, u, first, returned⟩ := Run.returns_bind.1 returned
      refine List.forall_mem_cons.2 ⟨⟨s, found, u, first⟩, ?_⟩
      cases found with
      | none =>
          obtain ⟨_, v, -, others⟩ := Run.returns_bind.1 returned
          exact ih others
      | some signature =>
          obtain ⟨more, v, others, -⟩ := Run.returns_bind.1 returned
          exact ih others

/-- An identifier by which an operation is named can be looked up. -/
theorem isKey_of_ofOperation {method path name : String} {operationId : Json}
    (named : Name.ofOperation method path operationId = .ok name) :
    (operationId.orElse (.str "")).isKey = true := by
  unfold Json.orElse
  split
  · next counts =>
      unfold Name.ofOperation at named
      rw [if_pos counts] at named
      obtain ⟨text, read, -⟩ := except_bind_eq_ok.1 named
      rw [Json.eq_str_of_text read]
      rfl
  · rfl

theorem isKey_of_functionNames {operations : List Contract.Operation} {names : List String}
    (named : functionNames operations = .ok names) :
    ∀ operation ∈ operations,
      ((operation.node.value.under "operationId").orElse (.str "")).isKey = true := by
  obtain ⟨given, each, -⟩ := except_bind_eq_ok.1 named
  have keys : List.Forall₂ (fun operation (_ : String) =>
      ((operation.node.value.under "operationId").orElse (.str "")).isKey = true ∧ True)
        operations given := by
    refine (mapM_eq_ok_iff.1 each).imp fun operation name read => ⟨?_, trivial⟩
    obtain ⟨operationId, held, read⟩ := except_bind_eq_ok.1 read
    obtain rfl := Json.eq_under_of_member held
    exact isKey_of_ofOperation read
  exact ((List.forall₂_and_left _ _).1 keys).1

/-- The parts of each operation that are read when it is tried. -/
theorem exists_elements_of_steps {translator : Translator} {operations : List Contract.Operation}
    {names : List String} {s₁ s₂ s₃ s₄ s₅ : Session}
    (steps : Steps document configuration fragments translator operations names s s₁ s₂ s₃ s₄ s₅ t) :
    ∀ operation ∈ operations, (∃ more, (operation.shared.orElse (.list [])).elements = .ok more) ∧
      ∃ own, Enrichment.ownParameters operation.node = .ok own := by
  intro operation member
  have long : operations.length ≤ names.length :=
    Nat.le_of_eq (length_functionNames steps.named).symm
  rw [← List.map_snd_zip long] at member
  obtain ⟨entry, known, rfl⟩ := List.mem_map.1 member
  obtain ⟨u, signature?, v, returned⟩ := exists_build_of_signatures steps.mapped entry known
  exact SignatureBuilder.exists_elements_of_build returned

/-- The components and the operations of a contract from which a client is made can be
walked. -/
theorem walks_of_ofContract
    (returned : Run.Returns (ofContract (.root 0 contract) configuration) s fragments t) :
    Contract.Walks contract := by
  obtain ⟨translator, operations, names, s₁, s₂, s₃, s₄, s₅, steps⟩ := exists_steps returned
  have found := (Translator.returns_create steps.created).1
  obtain ⟨entries, object⟩ := Translator.object_of_components steps.created steps.components
  refine ⟨⟨translator.schemas.entriesFrom 0 entries, ?_⟩, operations, steps.listed, ?_⟩
  · rw [found, except_ok_bind, Node.entries, object]
    rfl
  · obtain ⟨paths, -, further⟩ := except_bind_eq_ok.1 steps.listed
    obtain ⟨items, -, listed⟩ := except_bind_eq_ok.1 further
    have read : ∀ operation ∈ operations,
        ((operation.node.value.under "operationId").orElse (.str "")).isKey = true ∧
          (∃ more, (operation.shared.orElse (.list [])).elements = .ok more) ∧
          ∃ own, Enrichment.ownParameters operation.node = .ok own :=
      fun operation member => ⟨isKey_of_functionNames steps.named operation member,
        exists_elements_of_steps steps operation member⟩
    -- The shared parameters stand in for missing ones already, so they can be walked as they are.
    refine (Contract.forall_operationsOfItems_iff Enrichment.Walkable listed).2
      fun entry known method member isObject => ?_
    obtain ⟨identifier, ⟨more, walked⟩, own, placed⟩ := (Contract.forall_operationsOfItems_iff
      (fun operation shared => ((operation.value.under "operationId").orElse (.str "")).isKey = true ∧
        (∃ more, (shared.orElse (.list [])).elements = .ok more) ∧
        ∃ own, Enrichment.ownParameters operation = .ok own) listed).1 read entry known method member
          isObject
    refine ⟨Node.value_under ▸ isObject, identifier, own ++ more, ?_⟩
    rw [Contract.sharedOf, Node.orElse_orElse] at walked
    unfold Enrichment.entriesAt
    rw [placed, except_ok_bind, Contract.sharedOf, walked]
    rfl

/-! ## Both directions -/

/-- A contract from which a client is made can be enriched exactly when the symbols fit,
given that its references lead to components of their kind. -/
theorem enriches_iff_of_ofContract {symbols : SymbolModel} {d : Draft}
    (returned : Run.Returns (ofContract (.root 0 d.document) configuration) s fragments t)
    (refers : d.document.refersInto Part.lookedUp = true) :
    (∃ e, Edit.Returns (Enrichment.enrich symbols) d () e) ↔ symbols.Fits d.document :=
  Enrichment.exists_enrich_iff refers (walks_of_ofContract returned)

/-- A client is made from pets, and their symbols fit them. -/
theorem enriches_iff_of_ofContract_pets :
    (∃ fragments t, Run.Returns (ofContract (.root 0 Enrichment.pets) {}) {} fragments t) ∧
      Enrichment.pets.refersInto Part.lookedUp = true ∧
      Enrichment.petSymbols.Fits Enrichment.pets := by
  have made : ((ofContract (.root 0 Enrichment.pets) {}).passes {} fun _ _ => true) = true := by
    decide +kernel
  have enriched : ((Enrichment.enrich Enrichment.petSymbols).passes { document := Enrichment.pets }
      fun _ _ => true) = true := by decide +kernel
  have refers : Enrichment.pets.refersInto Part.lookedUp = true := by decide +kernel
  obtain ⟨fragments, t, returned⟩ := Run.exists_returns made
  obtain ⟨_, e, comes, -⟩ := Edit.exists_returns_of enriched
  have whole := @enriches_iff_of_ofContract _ _ _ _ Enrichment.petSymbols
    { document := Enrichment.pets } returned refers
  exact ⟨⟨fragments, t, returned⟩, refers, whole.1 ⟨e, comes⟩⟩

/-- A path item that is `null`. -/
def nullItem : Json := .object [("paths", .object [("/pets", .null)])]

/-- A client is made from a contract with a path item that is `null`, but the contract cannot
be enriched, not even from a manifest that says nothing. -/
theorem null_item_not_enriched :
    (∃ fragments t, Run.Returns (ofContract (.root 0 nullItem) {}) {} fragments t) ∧
      Manifest.model (.object []) "manifest.json" = .ok {} ∧
      ¬ ∃ e, Edit.Returns (Enrichment.enrich {}) { document := nullItem } () e := by
  have made : ((ofContract (.root 0 nullItem) {}).passes {} fun _ _ => true) = true := by
    decide +kernel
  have refers : nullItem.refersInto Part.lookedUp = true := by decide +kernel
  obtain ⟨fragments, t, returned⟩ := Run.exists_returns made
  refine ⟨⟨fragments, t, returned⟩, rfl, fun enriched => ?_⟩
  have whole := @Enrichment.exists_enrich_iff {} { document := nullItem } refers
    (walks_of_ofContract returned)
  obtain ⟨_, object⟩ := ((whole.1 enriched).items ("/pets", ⟨.null, some ⟨0, [0, 0]⟩⟩)
    (List.mem_singleton.2 rfl)).object
  cases object

end Fragments

end TypedContract
