/-
# TypedContract.Proofs.Enrichment.Parallel -- two edits side by side

Two drafts of one contract may differ by what enrichment writes.  Steps begun on such
drafts are `Parallel` when the second returns whenever the first does, their results are
related, and both carry out the same plan and report the same diagnostics.  The plan is
sited in the contract, so the drafts after the steps are enriched from it again.

Each way of putting edits together has one rule.  Results that are nodes are `Twins`:
counterparts of one node of the contract.
-/
import TypedContract.Proofs.Contract.Counterpart
import TypedContract.Proofs.Contract.Plan
import TypedContract.Proofs.Editing
import TypedContract.Enrichment

namespace TypedContract

set_option autoImplicit false

open Contract (Part Effect)

/-! ## Results that are answers to one question -/

/-- Both answers are related to what the contract before answers. -/
def Both {α β : Type} (related : α → β → Prop) (b b' : β) : Prop :=
  ∃ a, related a b ∧ related a b'

theorem Both.eq {α : Type} {a a' : α} (both : Both (fun old new => new = old) a a') : a = a' := by
  obtain ⟨old, rfl, rfl⟩ := both
  rfl

theorem Both.forall₂ {α β : Type} {related : α → β → Prop} {xs ys : List β}
    (both : Both (List.Forall₂ related) xs ys) : List.Forall₂ (Both related) xs ys := by
  obtain ⟨old, first, second⟩ := both
  induction first generalizing ys with
  | nil => cases second; exact .nil
  | cons head tail ih =>
      cases second with
      | cons head' tail' => exact .cons ⟨_, head, head'⟩ (ih tail')

/-- The nodes are counterparts of one node of the contract. -/
def Twins (offer : Offer) (contract : Json) (part : Part) : Node → Node → Prop :=
  Both (Node.Counterpart offer contract part)

namespace Edit

variable {offer : Offer} {contract : Json} {α β γ δ : Type}

/-- A plan and some reports lead from one draft to the next. -/
structure Made (plan : List Effect) (reports : List Diagnostic) (d e : Draft) : Prop where
  document : e.document = Contract.carryOut plan d.document
  diagnostics : e.diagnostics = d.diagnostics ++ reports

/-- From drafts of one contract the second step does what the first does. -/
def Parallel (offer : Offer) (contract : Json) (related : α → β → Prop) (step : Edit α)
    (step' : Edit β) : Prop :=
  ∀ (d d' e : Draft) (a : α), contract.Enriched offer .contract d.document →
    contract.Enriched offer .contract d'.document → Returns step d a e →
    ∃ b e' plan reports, Returns step' d' b e' ∧ related a b ∧
      (∀ effect ∈ plan, effect.Sited offer contract) ∧
      Made plan reports d e ∧ Made plan reports d' e'

namespace Parallel

variable {related : α → β → Prop} {final : γ → δ → Prop} {step : Edit α} {step' : Edit β}

/-- Steps that change nothing are parallel when their results are. -/
theorem still (each : ∀ {d d' e : Draft} {a : α}, contract.Enriched offer .contract d.document →
    contract.Enriched offer .contract d'.document → Returns step d a e →
      e.document = d.document ∧ e.diagnostics = d.diagnostics ∧
      ∃ b e', Returns step' d' b e' ∧ related a b ∧
        e'.document = d'.document ∧ e'.diagnostics = d'.diagnostics) :
    Parallel offer contract related step step' := by
  intro d d' e a enriched enriched' returned
  obtain ⟨document, diagnostics, b, e', returned', results, document', diagnostics'⟩ :=
    each enriched enriched' returned
  refine ⟨b, e', [], [], returned', results, nofun, ⟨document, ?_⟩, ⟨document', ?_⟩⟩
  · rw [diagnostics, List.append_nil]
  · rw [diagnostics', List.append_nil]

theorem pure {a : α} {b : β} (results : related a b) :
    Parallel offer contract related (pure a) (pure b) :=
  still fun _ _ returned => by
    obtain ⟨rfl, rfl⟩ := returns_pure.1 returned
    exact ⟨rfl, rfl, b, _, returns_pure.2 ⟨rfl, rfl⟩, results, rfl, rfl⟩

theorem bind {next : α → Edit γ} {next' : β → Edit δ}
    (first : Parallel offer contract related step step')
    (rest : ∀ a b, related a b → Parallel offer contract final (next a) (next' b)) :
    Parallel offer contract final (step >>= next) (step' >>= next') := by
  intro d d' e c enriched enriched' returned
  obtain ⟨a, f, returned_first, returned_rest⟩ := returns_bind.1 returned
  obtain ⟨b, f', plan, reports, returned_first', results, sited, made, made'⟩ :=
    first _ _ _ _ enriched enriched' returned_first
  have inner : contract.Enriched offer .contract f.document :=
    made.document ▸ Contract.carryOut_enriched sited enriched
  have inner' : contract.Enriched offer .contract f'.document :=
    made'.document ▸ Contract.carryOut_enriched sited enriched'
  obtain ⟨c', e', plan', reports', returned_rest', results', sited', later, later'⟩ :=
    rest a b results _ _ _ _ inner inner' returned_rest
  refine ⟨c', e', plan ++ plan', reports ++ reports',
    returns_bind.2 ⟨b, f', returned_first', returned_rest'⟩, results', ?_, ⟨?_, ?_⟩, ⟨?_, ?_⟩⟩
  · exact List.forall_mem_append.2 ⟨sited, sited'⟩
  · rw [later.document, made.document, Contract.carryOut_append]
  · rw [later.diagnostics, made.diagnostics, List.append_assoc]
  · rw [later'.document, made'.document, Contract.carryOut_append]
  · rw [later'.diagnostics, made'.diagnostics, List.append_assoc]

theorem mono {weaker : α → β → Prop} (parallel : Parallel offer contract related step step')
    (weaken : ∀ a b, related a b → weaker a b) : Parallel offer contract weaker step step' := by
  intro d d' e a enriched enriched' returned
  obtain ⟨b, e', plan, reports, returned', results, rest⟩ := parallel _ _ _ _ enriched enriched' returned
  exact ⟨b, e', plan, reports, returned', weaken a b results, rest⟩

/-- Two ways to a result, and the rest from there. -/
theorem branch (related : α → β → Prop) {condition : Prop} [Decidable condition] {step other : Edit α} {step' other' : Edit β}
    {next : α → Edit γ} {next' : β → Edit δ}
    (one : condition → Parallel offer contract related step step')
    (two : ¬ condition → Parallel offer contract related other other')
    (rest : ∀ a b, related a b → Parallel offer contract final (next a) (next' b)) :
    Parallel offer contract final (if condition then step >>= next else other >>= next)
      (if condition then step' >>= next' else other' >>= next') := by
  split
  · rename_i holds
    exact (one holds).bind rest
  · rename_i fails
    exact (two fails).bind rest

/-! ## Steps that change nothing -/

/-- A step that faults is parallel to every step. -/
theorem throw {fault : Fault} : Parallel offer contract related (throw fault) step' :=
  fun _ _ _ _ _ _ returned => absurd returned not_returns_throw

theorem lift {result : Except Fault α} {result' : Except Fault β}
    (each : ∀ a, result = .ok a → ∃ b, result' = .ok b ∧ related a b) :
    Parallel offer contract related (Edit.lift result) (Edit.lift result') :=
  still fun _ _ returned => by
    obtain ⟨answered, rfl⟩ := returns_lift.1 returned
    obtain ⟨b, answered', results⟩ := each _ answered
    exact ⟨rfl, rfl, b, _, returns_lift.2 ⟨answered', rfl⟩, results, rfl, rfl⟩

/-- The same question is answered the same. -/
theorem lift_same {result result' : Except Fault α} (same : result' = result) :
    Parallel offer contract (fun a b => a = b ∧ result = .ok a) (Edit.lift result)
      (Edit.lift result') :=
  lift fun a answered => ⟨a, same.trans answered, rfl, answered⟩

/-- A question that counterparts answer alike. -/
theorem ask {question : α → β → Prop} {before : Except Fault α} {answer answer' : Except Fault β}
    (first : Agree question before answer) (second : Agree question before answer') :
    Parallel offer contract (Both question) (Edit.lift answer) (Edit.lift answer') :=
  lift fun b answered => by
    obtain ⟨a, asked, own⟩ := first.exists_left answered
    obtain ⟨b', answered', own'⟩ := second.exists_right asked
    exact ⟨b', answered', a, own, own'⟩

theorem report {code : Diagnostic.Code} {args : List String} {location : Option Location} :
    Parallel offer contract Eq (Edit.report code args location) (Edit.report code args location) := by
  intro d d' e a _ _ returned
  obtain rfl := returns_report.1 returned
  exact ⟨(), _, [], [⟨code, args, location⟩], returns_report.2 rfl, rfl, nofun, ⟨rfl, rfl⟩,
    ⟨rfl, rfl⟩⟩

/-- The log is not looked at. -/
theorem note {level : Log.Level} {source : Log.Source} {message message' : String} :
    Parallel offer contract Eq (Edit.note level source message)
      (Edit.note level source message') :=
  still fun _ _ returned => by
    obtain rfl := returns_note.1 returned
    exact ⟨rfl, rfl, (), _, returns_note.2 rfl, rfl, rfl, rfl⟩

theorem get : Parallel offer contract (fun _ _ => True) (get : Edit Draft) (get : Edit Draft) :=
  still fun _ _ returned => by
    obtain ⟨rfl, rfl⟩ := returns_get.1 returned
    exact ⟨rfl, rfl, _, _, returns_get.2 ⟨rfl, rfl⟩, trivial, rfl, rfl⟩

theorem root : Parallel offer contract (Twins offer contract .contract) Edit.root Edit.root :=
  still fun enriched enriched' returned => by
    obtain ⟨rfl, rfl⟩ := returns_root.1 returned
    exact ⟨rfl, rfl, _, _, returns_root.2 ⟨rfl, rfl⟩,
      ⟨_, .root enriched, .root enriched'⟩, rfl, rfl⟩

/-! ## Loops -/

theorem forM {related : γ → δ → Prop} {xs : List γ} {ys : List δ} {step : γ → Edit PUnit}
    {step' : δ → Edit PUnit} (items : List.Forall₂ related xs ys)
    (each : ∀ x y, related x y → Parallel offer contract Eq (step x) (step' y)) :
    Parallel offer contract Eq (xs.forM step) (ys.forM step') := by
  induction items with
  | nil => exact pure rfl
  | cons head tail ih => exact bind (each _ _ head) fun _ _ _ => ih

/-- The same list on both sides. -/
theorem forM_same {xs : List γ} {step step' : γ → Edit PUnit}
    (each : ∀ x ∈ xs, Parallel offer contract Eq (step x) (step' x)) :
    Parallel offer contract Eq (xs.forM step) (xs.forM step') := by
  induction xs with
  | nil => exact pure rfl
  | cons x xs ih =>
      obtain ⟨first, rest⟩ := List.forall_mem_cons.1 each
      exact bind first fun _ _ _ => ih rest

/-! ## Nodes as they are now -/

end Parallel

end Edit

theorem Node.refreshed_of_container {node : Node} {document : Json} {place : Place}
    (placed : node.place = some place) (container : node.value.isContainer = true) :
    node.refreshed document = { node with value := (document.at? place.path).getD node.value } := by
  obtain ⟨value, place?⟩ := node
  cases placed
  cases value with
  | object entries => rfl
  | list items => rfl
  | _ => cases container

theorem Node.refreshed_of_leaf {node : Node} {document : Json}
    (still : node.place = none ∨ node.value.isContainer = false) :
    node.refreshed document = node := by
  obtain ⟨value, place?⟩ := node
  cases place? with
  | none => rfl
  | some place =>
      cases value with
      | object entries => rcases still with nowhere | leaf <;> contradiction
      | list items => rcases still with nowhere | leaf <;> contradiction
      | _ => rfl

@[simp] theorem Node.refreshed_refreshed {node : Node} {document : Json} :
    (node.refreshed document).refreshed document = node.refreshed document := by
  by_cases still : node.place = none ∨ node.value.isContainer = false
  · rw [refreshed_of_leaf still, refreshed_of_leaf still]
  · rw [not_or, Bool.not_eq_false] at still
    obtain ⟨place, placed⟩ := Option.ne_none_iff_exists'.1 still.1
    rw [refreshed_of_container placed still.2]
    have again {value : Json} (same : (document.at? place.path).getD value = value) :
        ({ node with value := value } : Node).refreshed document = { node with value := value } := by
      by_cases leaf : value.isContainer = false
      · exact refreshed_of_leaf (.inr leaf)
      · rw [Bool.not_eq_false] at leaf
        have once : ({ node with value := value } : Node).refreshed document =
            { node with value := (document.at? place.path).getD value } :=
          refreshed_of_container placed leaf
        rwa [same] at once
    refine again ?_
    cases document.at? place.path <;> rfl

namespace Node.Counterpart

variable {offer : Offer} {contract document : Json} {part : Part} {old new : Node}

theorem isContainer (counterpart : Counterpart offer contract part old new) :
    new.value.isContainer = old.value.isContainer := counterpart.value.isContainer

/-- The value that stands now at the place of an object or a list. -/
theorem at? (counterpart : Counterpart offer contract part old new)
    (enriched : contract.Enriched offer .contract document)
    (container : old.value.isContainer = true) {place : Place} (placed : old.place = some place) :
    ∃ value, document.at? place.path = some value ∧ old.value.Enriched offer part value := by
  obtain ⟨value, reached, own⟩ := enriched.reach (counterpart.stands place placed container)
  exact ⟨value, Json.at?_of_reach reached, own⟩

theorem refreshed (counterpart : Counterpart offer contract part old new)
    (enriched : contract.Enriched offer .contract document) :
    Counterpart offer contract part old (new.refreshed document) := by
  by_cases still : new.place = none ∨ new.value.isContainer = false
  · rw [Node.refreshed_of_leaf still]
    exact counterpart
  · rw [not_or, Bool.not_eq_false] at still
    obtain ⟨place, placed⟩ := Option.ne_none_iff_exists'.1 still.1
    obtain ⟨value, here, own⟩ := counterpart.at? enriched
      (counterpart.isContainer ▸ still.2) (counterpart.place ▸ placed)
    rw [Node.refreshed_of_container placed still.2, here]
    exact ⟨counterpart.place, counterpart.stands, counterpart.absent, own⟩

end Node.Counterpart

namespace Edit

variable {offer : Offer} {contract : Json} {part : Part} {origin node node' : Node}

theorem Parallel.refresh (twins : Twins offer contract part node node') :
    Parallel offer contract (Twins offer contract part) (Edit.refresh node) (Edit.refresh node') :=
  Parallel.still fun enriched enriched' returned => by
    obtain ⟨origin, first, second⟩ := twins
    obtain ⟨rfl, rfl⟩ := returns_refresh.1 returned
    exact ⟨rfl, rfl, _, _, returns_refresh.2 ⟨rfl, rfl⟩,
      ⟨origin, first.refreshed enriched, second.refreshed enriched'⟩, rfl, rfl⟩

/-! ## Changes of nodes -/

/-- The effects of a change of a node: none where the node has no place. -/
def effectsAt (node : Node) (change : Contract.Change) : List Effect :=
  match node.place with
  | some place => [⟨place.path, change⟩]
  | none => []

theorem sited_effectsAt (change : Contract.Change) {entries : List (String × Json)}
    (counterpart : Node.Counterpart offer contract part origin node)
    (object : origin.value = .object entries) (offered : change.Offered offer part entries) :
    ∀ effect ∈ effectsAt origin change, effect.Sited offer contract := by
  unfold effectsAt
  cases placed : origin.place with
  | none => nofun
  | some place =>
      refine List.forall_mem_singleton.2 ⟨part, entries, ?_, offered⟩
      rw [← object]
      exact counterpart.stands place placed (by rw [object]; rfl)

/-- The entries that a counterpart has now stand at its place. -/
theorem at?_refreshed {document : Json} {place : Place} {entries : List (String × Json)}
    (counterpart : Node.Counterpart offer contract part origin node)
    (enriched : contract.Enriched offer .contract document) (placed : origin.place = some place)
    (now : (node.refreshed document).value = .object entries) :
    document.at? place.path = some (.object entries) := by
  have placed' : node.place = some place := counterpart.place.trans placed
  have container : node.value.isContainer = true := by
    rw [counterpart.isContainer, ← (counterpart.refreshed enriched).isContainer, now]
    rfl
  obtain ⟨value, here, -⟩ := counterpart.at? enriched (counterpart.isContainer ▸ container) placed
  rw [Node.refreshed_of_container placed' container, here] at now
  rw [here, ← now]
  rfl

/-- Assigning the key of a change to a counterpart carries out its effects. -/
theorem assigned_eq {document value : Json} {name : String} {entries : List (String × Json)}
    {change : Contract.Change} (counterpart : Node.Counterpart offer contract part origin node)
    (enriched : contract.Enriched offer .contract document)
    (now : (node.refreshed document).value = .object entries)
    (changed : change.on entries = Json.put name value entries) :
    assigned node name value entries document =
      Contract.carryOut (effectsAt origin change) document := by
  unfold assigned effectsAt
  rw [counterpart.place]
  cases placed : origin.place with
  | none => rfl
  | some place =>
      have here := at?_refreshed counterpart enriched placed now
      refine (Json.replaceAt_object here).trans (Json.amendAt_congr fun found held => ?_)
      rw [here] at held
      cases held
      exact changed.symm

/-- A change that is done where a counterpart stands does nothing. -/
theorem carryOut_of_isDone {document : Json} {entries : List (String × Json)}
    {change : Contract.Change} (counterpart : Node.Counterpart offer contract part origin node)
    (enriched : contract.Enriched offer .contract document)
    (now : (node.refreshed document).value = .object entries) (done : change.IsDone entries) :
    Contract.carryOut (effectsAt origin change) document = document := by
  unfold effectsAt
  cases placed : origin.place with
  | none => rfl
  | some place =>
      have here := at?_refreshed counterpart enriched placed now
      exact Json.amendAt_self fun found held => by
        rw [here] at held
        cases held
        exact done

/-- A counterpart of an object is an object now. -/
theorem object_refreshed {document : Json} {before : List (String × Json)}
    (counterpart : Node.Counterpart offer contract part origin node)
    (enriched : contract.Enriched offer .contract document)
    (object : origin.value = .object before) :
    ∃ entries, (node.refreshed document).value = .object entries ∧
      Json.EnrichedEntries offer part before before entries := by
  have own := (counterpart.refreshed enriched).value
  rw [object] at own
  exact Json.enriched_object.1 own

theorem object_of_refreshed {document : Json} {entries : List (String × Json)}
    (counterpart : Node.Counterpart offer contract part origin node)
    (enriched : contract.Enriched offer .contract document)
    (now : (node.refreshed document).value = .object entries) :
    ∃ before, origin.value = .object before := by
  obtain ⟨before, _, object, -⟩ | ⟨_, items, -, list, -⟩ | ⟨leaf, same⟩ :=
    (counterpart.refreshed enriched).value.cases
  · exact ⟨before, object⟩
  · cases now.symm.trans list
  · rw [← same, now] at leaf
    cases leaf

/-- Assigning examples to a node that takes them. -/
theorem Parallel.assign {which : Example.Which} {value : Json}
    (first : Node.Counterpart offer contract part origin node)
    (second : Node.Counterpart offer contract part origin node')
    (takes : ∀ entries, origin.value = .object entries → Offer.TakesExamples part entries)
    (offered : offer.examples which value) :
    Parallel offer contract Eq (Edit.assign node which.key value)
      (Edit.assign node' which.key value) := by
  intro d d' e a enriched enriched' returned
  obtain ⟨entries, now, rfl⟩ := returns_assign.1 returned
  obtain ⟨before, object⟩ := object_of_refreshed first enriched now
  obtain ⟨entries', now', -⟩ := object_refreshed second enriched' object
  have sited := sited_effectsAt (.examples which value) first object ⟨takes _ object, offered⟩
  refine ⟨(), _, effectsAt origin (.examples which value), [], returns_assign.2 ⟨entries', now', rfl⟩,
    rfl, sited, ⟨?_, (List.append_nil _).symm⟩, ⟨?_, (List.append_nil _).symm⟩⟩
  · exact assigned_eq first enriched now rfl
  · exact assigned_eq second enriched' now' rfl

/-- Describing an object adds the description unless the object is a reference. -/
theorem returns_describe {d : Draft} {documentation : Json} {before : List (String × Json)}
    (counterpart : Node.Counterpart offer contract part origin node)
    (enriched : contract.Enriched offer .contract d.document)
    (object : origin.value = .object before) (takes : part.takesDescription = true)
    (counts : documentation.truthy = true) :
    ∃ e, Returns (Enrichment.describe node documentation) d () e ∧ e.diagnostics = d.diagnostics ∧
      e.document = Contract.carryOut
        (if (Json.find? "$ref" before).isSome then [] else
          effectsAt origin (.description documentation)) d.document := by
  obtain ⟨entries, now, own⟩ := object_refreshed counterpart enriched object
  have reference : Json.find? "$ref" entries = Json.find? "$ref" before :=
    own.find?_of_quiet (part.writes_of_not_mem (by decide))
      (Part.quiet_ref takes)
  have text : (node.refreshed d.document).value.member "description" =
      .ok ((Json.find? "description" entries).getD .null) := by rw [now]; rfl
  have held : (node.refreshed d.document).value.holds "$ref" =
      .ok (Json.find? "$ref" before).isSome := by rw [now, ← reference]; rfl
  have stepped {e : Draft} (rest : Returns
      (if ((Json.find? "description" entries).getD .null).truthy = true then pure () else
        if (Json.find? "$ref" before).isSome = true then pure () else
          Edit.assign (node.refreshed d.document) "description" documentation) d () e) :
      Returns (Enrichment.describe node documentation) d () e := by
    unfold Enrichment.describe
    rw [if_neg (by rw [counts]; decide)]
    refine returns_bind.2 ⟨_, d, returns_refresh.2 ⟨rfl, rfl⟩, ?_⟩
    refine returns_bind.2 ⟨_, d, returns_lift.2 ⟨text, rfl⟩, ?_⟩
    split at rest
    · rename_i present
      rwa [if_pos present]
    · rename_i missing
      rw [if_neg missing]
      exact returns_bind.2 ⟨_, d, returns_lift.2 ⟨held, rfl⟩, rest⟩
  -- a description that counts stays, and beside a reference none is written
  by_cases present : ((Json.find? "description" entries).getD .null).truthy = true
  · refine ⟨d, stepped (by rw [if_pos present]; exact returns_pure.2 ⟨rfl, rfl⟩), rfl, ?_⟩
    split
    · rfl
    · have done := (Contract.Change.isDone_description counts).2 present
      exact (carryOut_of_isDone counterpart enriched now done).symm
  · by_cases refers : (Json.find? "$ref" before).isSome = true
    · refine ⟨d, stepped ?_, rfl, by rw [if_pos refers]; rfl⟩
      rw [if_neg present, if_pos refers]
      exact returns_pure.2 ⟨rfl, rfl⟩
    · have again : ((node.refreshed d.document).refreshed d.document).value = .object entries := by
        rw [Node.refreshed_refreshed, now]
      have changed : (Contract.Change.description documentation).on entries =
          Json.put "description" documentation entries := if_neg present
      let document := assigned (node.refreshed d.document) "description" documentation entries d.document
      refine ⟨{ d with document := document }, stepped ?_, rfl, ?_⟩
      · rw [if_neg present, if_neg refers]
        exact returns_assign.2 ⟨entries, again, rfl⟩
      rw [if_neg refers]
      exact assigned_eq (counterpart.refreshed enriched) enriched again changed

/-- Only what was an object before can be described. -/
theorem object_of_describe {d e : Draft} {documentation : Json}
    (counterpart : Node.Counterpart offer contract part origin node)
    (enriched : contract.Enriched offer .contract d.document) (counts : documentation.truthy = true)
    (returned : Returns (Enrichment.describe node documentation) d () e) :
    ∃ before, origin.value = .object before := by
  unfold Enrichment.describe at returned
  rw [if_neg (by rw [counts]; decide)] at returned
  obtain ⟨fresh, f, refreshed, returned⟩ := returns_bind.1 returned
  obtain ⟨rfl, rfl⟩ := returns_refresh.1 refreshed
  obtain ⟨text, f, answered, -⟩ := returns_bind.1 returned
  have answered := (returns_lift.1 answered).1
  cases now : (node.refreshed d.document).value with
  | object entries => exact object_of_refreshed counterpart enriched now
  | _ => rw [now] at answered; cases answered

/-- A description is offered to an object that is no reference. -/
theorem sited_description {documentation : Json} {before : List (String × Json)}
    (counterpart : Node.Counterpart offer contract part origin node)
    (object : origin.value = .object before) (takes : part.takesDescription = true)
    (offered : offer.descriptions documentation) :
    ∀ effect ∈ (if (Json.find? "$ref" before).isSome then [] else
      effectsAt origin (.description documentation)), effect.Sited offer contract := by
  split
  · nofun
  · rename_i refers
    rw [Bool.not_eq_true, Option.isSome_eq_false_iff, Option.isNone_iff_eq_none] at refers
    exact sited_effectsAt _ counterpart object ⟨⟨takes, refers⟩, offered⟩

/-- Describing counterparts that take a description. -/
theorem Parallel.describe {documentation : Json} (takes : part.takesDescription = true)
    (offered : documentation.truthy = true → offer.descriptions documentation)
    (twins : Twins offer contract part node node') :
    Parallel offer contract Eq (Enrichment.describe node documentation)
      (Enrichment.describe node' documentation) := by
  rcases Bool.eq_false_or_eq_true documentation.truthy with counts | counts
  · intro d d' e a enriched enriched' returned
    obtain ⟨origin, first, second⟩ := twins
    obtain ⟨before, object⟩ := object_of_describe first enriched counts returned
    obtain ⟨e₁, returned₁, diagnostics₁, document₁⟩ :=
      returns_describe first enriched object takes counts
    obtain ⟨e₂, returned₂, diagnostics₂, document₂⟩ :=
      returns_describe second enriched' object takes counts
    obtain ⟨rfl, rfl⟩ := returned.unique returned₁
    refine ⟨(), e₂, _, [], returned₂, rfl, sited_description first object takes (offered counts),
      ⟨document₁, ?_⟩, ⟨document₂, ?_⟩⟩
    · rw [diagnostics₁, List.append_nil]
    · rw [diagnostics₂, List.append_nil]
  · unfold Enrichment.describe
    rw [if_pos (by rw [counts]; rfl), if_pos (by rw [counts]; rfl)]
    exact Parallel.pure rfl

end Edit

end TypedContract
