/-
# TypedContract.Proofs.Enrichment.Described -- the pass that describes parameters

A step `Describes` some sites when it returns exactly if they can be listed, and then adds
to each parameter what its function says (`Site.effects`).  There is one rule for each way
of putting the pass together and one lemma for each of its steps, down from the operations
of a contract to the single parameter.
-/
import TypedContract.Proofs.Enrichment.Sites

namespace TypedContract.Enrichment

set_option autoImplicit false

open Contract (Part Effect)

/-! ## Steps that describe sites -/

/-- From a draft of the contract the step returns exactly if the sites can be listed, and
describes them. -/
def Describes (offer : Offer) (contract : Json) (step : Edit Unit) (sites : Except Fault (List Site)) :
    Prop :=
  ∀ d : Draft, contract.Enriched offer .contract d.document →
    (∀ listed, sites = .ok listed →
      (∀ effect ∈ listed.flatMap Site.effects, effect.Sited offer contract) ∧
      ∃ e, Edit.Returns step d () e ∧ Edit.Made (listed.flatMap Site.effects) [] d e) ∧
    ∀ e, Edit.Returns step d () e → ∃ listed, sites = .ok listed

namespace Describes

variable {offer : Offer} {contract : Json} {α β : Type} {step : Edit Unit}

theorem nothing : Describes offer contract (pure ()) (.ok []) := by
  intro d enriched
  refine ⟨fun listed same => ?_, fun e _ => ⟨[], rfl⟩⟩
  cases same
  exact ⟨nofun, d, Edit.returns_pure.2 ⟨rfl, rfl⟩, ⟨rfl, (List.append_nil _).symm⟩⟩

/-- A question that the contract before answers alike. -/
theorem ask {related : α → β → Prop} {before : Except Fault α} {answer : Except Fault β}
    {next : β → Edit Unit} {sites : α → Except Fault (List Site)} (agree : Agree related before answer)
    (rest : ∀ a b, before = .ok a → related a b → Describes offer contract (next b) (sites a)) :
    Describes offer contract (Edit.lift answer >>= next) (before >>= sites) := by
  intro d enriched
  cases agree with
  | @ok a b results =>
      have further := rest a b rfl results d enriched
      refine ⟨fun listed same => ?_, fun e returned => ?_⟩
      · obtain ⟨sited, e, returned, made⟩ := further.1 listed same
        exact ⟨sited, e, Edit.returns_bind.2 ⟨b, d, Edit.returns_lift.2 ⟨rfl, rfl⟩, returned⟩, made⟩
      · obtain ⟨b', f, answered, returned⟩ := Edit.returns_bind.1 returned
        obtain ⟨same, rfl⟩ := Edit.returns_lift.1 answered
        cases same
        exact further.2 e returned
  | error =>
      refine ⟨nofun, fun e returned => ?_⟩
      obtain ⟨b, f, answered, -⟩ := Edit.returns_bind.1 returned
      cases (Edit.returns_lift.1 answered).1

/-- The same question. -/
theorem read {before answer : Except Fault α} {next : α → Edit Unit}
    {sites : α → Except Fault (List Site)} (same : answer = before)
    (rest : ∀ a, before = .ok a → Describes offer contract (next a) (sites a)) :
    Describes offer contract (Edit.lift answer >>= next) (before >>= sites) :=
  ask (Agree.of_eq same) fun a _ answered equal => equal ▸ rest a answered

theorem refresh {part : Part} {origin node : Node} {next : Node → Edit Unit}
    {sites : Except Fault (List Site)} (counterpart : Node.Counterpart offer contract part origin node)
    (rest : ∀ node, Node.Counterpart offer contract part origin node →
      Describes offer contract (next node) sites) :
    Describes offer contract (Edit.refresh node >>= next) sites := by
  intro d enriched
  have further := rest _ (counterpart.refreshed enriched) d enriched
  refine ⟨fun listed same => ?_, fun e returned => ?_⟩
  · obtain ⟨sited, e, returned, made⟩ := further.1 listed same
    exact ⟨sited, e, Edit.returns_bind.2 ⟨_, d, Edit.returns_refresh.2 ⟨rfl, rfl⟩, returned⟩, made⟩
  · obtain ⟨fresh, f, refreshed, returned⟩ := Edit.returns_bind.1 returned
    obtain ⟨rfl, rfl⟩ := Edit.returns_refresh.1 refreshed
    exact further.2 e returned

theorem forM {related : α → β → Prop} {origins : List α} {items : List β} {step : β → Edit Unit}
    {sites : α → Except Fault (List Site)} (both : List.Forall₂ related origins items)
    (each : ∀ a b, related a b → Describes offer contract (step b) (sites a)) :
    Describes offer contract (items.forM step) (collect sites origins) := by
  induction both with
  | nil => exact nothing
  | @cons a b origins items head tail ih =>
      intro d enriched
      have first := each a b head d enriched
      refine ⟨fun listed found => ?_, fun e returned => ?_⟩
      · obtain ⟨own, more, here, later, rfl⟩ := collect_cons_eq_ok.1 found
        obtain ⟨sited, f, returned, made⟩ := first.1 own here
        have inner : contract.Enriched offer .contract f.document :=
          made.document ▸ Contract.carryOut_enriched sited enriched
        obtain ⟨sited', e, returned', made'⟩ := (ih f inner).1 more later
        rw [List.flatMap_append]
        refine ⟨List.forall_mem_append.2 ⟨sited, sited'⟩, e,
          Edit.returns_forM_cons.2 ⟨(), f, returned, returned'⟩, ⟨?_, ?_⟩⟩
        · rw [made'.document, made.document, Contract.carryOut_append]
        · rw [made'.diagnostics, made.diagnostics, List.append_nil]
      · obtain ⟨_, f, returned, returned'⟩ := Edit.returns_forM_cons.1 returned
        obtain ⟨own, here⟩ := first.2 f returned
        obtain ⟨sited, f', again, made⟩ := first.1 own here
        obtain ⟨-, rfl⟩ := returned.unique again
        have inner : contract.Enriched offer .contract f.document :=
          made.document ▸ Contract.carryOut_enriched sited enriched
        obtain ⟨more, later⟩ := (ih f inner).2 e returned'
        exact ⟨_, collect_cons_eq_ok.2 ⟨own, more, here, later, rfl⟩⟩

end Describes

/-! ## The pass -/

section

variable {offer : Offer} {contract : Json}

/-- Asking a function about one parameter. -/
theorem describes_site {function : FunctionSymbol} {origin node : Node} {name : String}
    {entries : List (String × Json)} (object : origin.value = .object entries)
    (placed : Json.find? "$ref" entries = none)
    (offered : ∀ text, function.documentation? name = some text → offer.descriptions text)
    (counterpart : Node.Counterpart offer contract (.use .parameter) origin node) :
    Describes offer contract (describe node ((function.documentation? name).getD (.str "")))
      (.ok [⟨function, origin, name⟩]) := by
  intro d enriched
  refine ⟨fun listed same => ?_, fun e _ => ⟨_, rfl⟩⟩
  cases same
  rw [List.flatMap_singleton]
  unfold Site.effects
  cases said : function.documentation? name with
  | none => exact ⟨nofun, d, Edit.returns_pure.2 ⟨rfl, rfl⟩, ⟨rfl, (List.append_nil _).symm⟩⟩
  | some text =>
      have counts := offer.truthy text (offered text said)
      obtain ⟨e, returned, diagnostics, document⟩ :=
        Edit.returns_describe counterpart enriched object rfl counts
      rw [placed] at document
      refine ⟨?_, e, returned, ⟨document, ?_⟩⟩
      · exact Edit.sited_effectsAt (.description text) counterpart object
          ⟨⟨rfl, placed⟩, offered text said⟩
      · rw [diagnostics, List.append_nil]

theorem describes_parameterDescription {function : FunctionSymbol} {origin node : Node}
    {documented : List (String × Json)}
    (listed : documentations (function.pathParameters ++ function.parameters) = .ok documented)
    (offered : ∀ entry ∈ documented, offer.descriptions entry.2)
    (counterpart : Node.Counterpart offer contract (.use .parameter) origin node) :
    Describes offer contract (parameterDescription documented node) (siteOf function origin) := by
  unfold parameterDescription siteOf
  refine .refresh counterpart fun node counterpart => ?_
  refine .read (counterpart.holds (by decide)) fun isReference held => ?_
  split
  · exact .nothing
  · next placed =>
      refine .read (counterpart.value_member? (by decide) (by decide)) fun name found => ?_
      refine .read rfl fun text _ => ?_
      dsimp only
      have said : documented.lookup (Name.display text) = function.documentation? (Name.display text) :=
        lookup_documentations listed
      rw [said]
      cases object : origin.value with
      | object entries =>
          refine describes_site object ?_ (fun documentation found => ?_) counterpart
          · rw [object] at held
            cases held
            simpa using placed
          · rw [← said] at found
            exact offered _ (mem_of_lookup found)
      | _ => rw [object] at found; cases found

theorem describes_operationDescriptions {model : SymbolModel} {origin operation : Contract.Operation}
    (counterpart : Contract.Operation.Counterpart model.offer contract origin operation) :
    Describes model.offer contract (operationDescriptions model operation) (sitesOf model origin) := by
  unfold operationDescriptions sitesOf functionOf
  rw [bind_assoc]
  refine .refresh counterpart.node fun node own => ?_
  refine .read (own.value_member (by decide) (by decide)) fun operationId _ => ?_
  refine .read rfl fun function? found => ?_
  cases function? with
  | none => exact .nothing
  | some function =>
      refine .read rfl fun documented listed => ?_
      refine .ask (Contract.agree_parameters own) fun before now _ both => ?_
      refine .forM both fun _ _ => describes_parameterDescription listed ?_
      refine offered_of_documentations listed fun symbol member => ?_
      have listed := List.mem_append.2 (List.mem_append.1 member).symm
      exact SymbolModel.mem_symbols_of_functionFor? found listed

/-- The pass over the operations of a contract, begun on the contract itself. -/
theorem describes_operations {model : SymbolModel} {operations : List Contract.Operation}
    (listed : Contract.operations (.root 0 contract) = .ok operations) :
    Describes model.offer contract (operations.forM (operationDescriptions model))
      (allSites model operations) := by
  have same : contract.Enriched model.offer .contract contract := .refl .contract contract
  have agree := Contract.agree_operations (.root same)
  obtain ⟨found, again, both⟩ := agree.exists_right listed
  obtain rfl : operations = found := Except.ok.inj (listed.symm.trans again)
  exact .forM both fun _ _ => describes_operationDescriptions

end

end TypedContract.Enrichment
