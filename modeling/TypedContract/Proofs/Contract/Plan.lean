/-
# TypedContract.Proofs.Contract.Plan -- plans of effects and carrying them out twice

An effect is `Sited` in a contract when its path leads to a part that takes it and an
offer has it.  Sited effects keep a contract enriched (`Effect.Sited.enriched`), and a
plan of them fits every document that the contract was enriched to.

Carrying out a plan twice does what it did once (`carryOut_carryOut`): an effect whose
slot is not set again stays done, and one whose slot is set again does not matter.
-/
import TypedContract.Proofs.Contract.Change

namespace TypedContract

set_option autoImplicit false

open Contract (Part)

namespace Contract

namespace Change

/-- An offer has the change and a part with these entries takes it. -/
def Offered (offer : Offer) (part : Part) (entries : List (String × Json)) : Change → Prop
  | examples which value => Offer.TakesExamples part entries ∧ offer.examples which value
  | description text => Offer.TakesDescription part entries ∧ offer.descriptions text

variable {offer : Offer} {part : Part} {entries : List (String × Json)} {change : Change}

theorem Offered.counts (offered : change.Offered offer part entries) : change.Counts := by
  match change with
  | examples _ _ => trivial
  | description text => exact offer.truthy text offered.2

theorem Offered.writes (offered : change.Offered offer part entries) : part.writes change.key = true := by
  match change with
  | examples which value => exact (Offer.Allows.examples offered.1 offered.2).writes
  | description text =>
      unfold Part.writes key
      rw [offered.1.1, Bool.or_eq_true]
      exact .inr rfl

end Change

namespace Effect

/-- An offer has the effect and a contract takes it. -/
def Sited (offer : Offer) (contract : Json) (effect : Effect) : Prop :=
  ∃ part entries, contract.reach .contract effect.path = some (part, .object entries) ∧
    effect.change.Offered offer part entries

end Effect

end Contract

/-! ## Effects keep a contract enriched -/

namespace Json

variable {offer : Offer} {part : Part}

theorem EnrichedItems.modify {old new : List Json} {position : Nat} {item : Json} {f : Json → Json}
    (enriched : EnrichedItems offer part old new) (here : old[position]? = some item)
    (inside : ∀ item', Enriched offer part item item' → Enriched offer part item (f item')) :
    EnrichedItems offer part old (new.modify position f) := by
  induction old generalizing new position with
  | nil => cases here
  | cons first rest ih =>
      obtain ⟨first', rest', rfl, own, more⟩ := enriched.exists_cons
      cases position with
      | zero =>
          cases here
          rw [List.modify_zero_cons, EnrichedItems]
          exact ⟨inside _ own, more⟩
      | succ position =>
          rw [List.modify_succ_cons, EnrichedItems]
          exact ⟨own, ih more here⟩

namespace EnrichedEntries

variable {whole old new : List (String × Json)} {name : String} {value : Json}

theorem modify {position : Nat} {f : Json → Json}
    (enriched : EnrichedEntries offer part whole old new)
    (here : old[position]? = some (name, value)) (unwritten : part.writes name = false)
    (inside : ∀ value', Enriched offer (part.child name) value value' →
      Enriched offer (part.child name) value (f value')) :
    EnrichedEntries offer part whole old
      (new.modify position fun entry => (entry.1, f entry.2)) := by
  induction old generalizing new position with
  | nil => cases here
  | cons first rest ih =>
      obtain ⟨first', rest', rfl, own, more⟩ := enriched.exists_cons
      cases position with
      | zero =>
          cases here
          rw [List.modify_zero_cons, EnrichedEntries]
          exact ⟨rfl, .inl (inside _ (.of_unwritten own unwritten)), more⟩
      | succ position =>
          rw [List.modify_succ_cons, EnrichedEntries]
          exact ⟨rfl, own, ih more here⟩

/-- What is allowed may be assigned. -/
theorem put (enriched : EnrichedEntries offer part whole old new)
    (allowed : offer.Allows part whole name value)
    (absent : Json.find? name old = none → Json.find? name whole = none) :
    EnrichedEntries offer part whole old (Json.put name value new) := by
  induction old generalizing new with
  | nil =>
      rw [EnrichedEntries] at enriched ⊢
      obtain ⟨distinct, each⟩ := enriched
      refine ⟨nodup_put distinct, fun entry member => ?_⟩
      rcases mem_put member with rfl | before
      · exact ⟨absent rfl, allowed⟩
      · exact each entry before
  | cons first rest ih =>
      obtain ⟨held', rest', rfl, own, more⟩ := enriched.exists_cons
      unfold Json.put
      split
      · rename_i same
        obtain rfl := eq_of_beq same
        rw [EnrichedEntries]
        exact ⟨rfl, .inr allowed, more⟩
      · rename_i apart
        rw [EnrichedEntries]
        refine ⟨rfl, own, ih more fun missing => absent ?_⟩
        exact (if_neg apart).trans missing

/-- A description that counts stays what it is. -/
theorem description (enriched : EnrichedEntries offer part whole old new)
    (takes : part.takesDescription = true)
    (counts : ((Json.find? "description" whole).getD .null).truthy = true)
    (found : Json.find? "description" old = some value) :
    Json.find? "description" new = some value := by
  induction old generalizing new with
  | nil => cases found
  | cons first rest ih =>
      obtain ⟨key, held⟩ := first
      obtain ⟨held', rest', rfl, own, more⟩ := enriched.exists_cons
      unfold Json.find? at found ⊢
      split
      · rename_i same
        rw [if_pos same] at found
        obtain rfl := eq_of_beq same
        cases found
        rcases own with own | allowed
        · have writes : part.writes "description" = true := by
            unfold Part.writes
            rw [takes, Bool.or_eq_true]
            exact .inr rfl
          rw [Part.child_of_writes writes] at own
          rw [own.eq_of_quiet rfl]
        · cases (allowed.description_missing).symm.trans counts
      · rename_i apart
        rw [if_neg apart] at found
        exact ih more found

/-- A change that is offered to an object keeps its entries enriched. -/
theorem change {change : Contract.Change} (enriched : EnrichedEntries offer part whole whole new)
    (offered : change.Offered offer part whole) :
    EnrichedEntries offer part whole whole (change.on new) := by
  match change with
  | .examples which value => exact enriched.put (.examples offered.1 offered.2) id
  | .description text =>
      rw [Contract.Change.on_description]
      split
      · exact enriched
      · rename_i missing
        refine enriched.put (.description offered.1 ?_ offered.2) id
        by_contra counts
        rw [Bool.not_eq_false] at counts
        cases found : Json.find? "description" whole with
        | none =>
            rw [found] at counts
            cases counts
        | some value =>
            rw [enriched.description offered.1.1 counts found, ← found] at missing
            exact missing counts

end EnrichedEntries

/-- What keeps an object enriched keeps the value around it enriched. -/
theorem Enriched.amendAt {path : List Nat} {value new : Json} {q : Part}
    {entries : List (String × Json)} {f : List (String × Json) → List (String × Json)}
    (enriched : Enriched offer part value new)
    (reached : value.reach part path = some (q, .object entries))
    (inside : ∀ entries', EnrichedEntries offer q entries entries entries' →
      EnrichedEntries offer q entries entries (f entries')) :
    Enriched offer part value (Json.amendAt f path new) := by
  induction path generalizing part value new with
  | nil =>
      cases reached
      obtain ⟨entries', rfl, own⟩ := enriched_object.1 enriched
      exact enriched_object.2 ⟨_, rfl, inside _ own⟩
  | cons position path ih =>
      cases value with
      | list items =>
          obtain ⟨items', rfl, own⟩ := enriched_list.1 enriched
          obtain ⟨item, here, further⟩ := Option.bind_eq_some_iff.1 reached
          exact enriched_list.2 ⟨_, rfl, own.modify here fun item' related => ih related further⟩
      | object held =>
          obtain ⟨held', rfl, own⟩ := enriched_object.1 enriched
          obtain ⟨name, value, here, unwritten, further⟩ := getElem?_of_reach reached
          exact enriched_object.2 ⟨_, rfl,
            own.modify here unwritten fun value' related => ih related further⟩
      | _ => cases reached

end Json

namespace Contract

variable {offer : Offer} {contract document : Json} {effect : Effect}

namespace Effect

theorem Sited.counts (sited : effect.Sited offer contract) : effect.change.Counts := by
  obtain ⟨part, entries, reached, offered⟩ := sited
  exact offered.counts

theorem Sited.suits (sited : effect.Sited offer contract)
    (enriched : contract.Enriched offer .contract document) : effect.Suits document := by
  obtain ⟨part, entries, reached, offered⟩ := sited
  obtain ⟨found, reached', inside⟩ := enriched.reach reached
  obtain ⟨entries', rfl, -⟩ := Json.enriched_object.1 inside
  exact ⟨part, entries', reached', offered.writes⟩

theorem Sited.enriched (sited : effect.Sited offer contract)
    (enriched : contract.Enriched offer .contract document) :
    contract.Enriched offer .contract (effect.on document) := by
  obtain ⟨part, entries, reached, offered⟩ := sited
  exact enriched.amendAt reached fun entries' own => own.change offered

end Effect

/-! ## Plans -/

/-- The document after some effects, one after the other. -/
def carryOut (plan : List Effect) (document : Json) : Json :=
  plan.foldl (fun document effect => effect.on document) document

theorem carryOut_cons {plan : List Effect} :
    carryOut (effect :: plan) document = carryOut plan (effect.on document) := rfl

theorem carryOut_append {plan more : List Effect} :
    carryOut (plan ++ more) document = carryOut more (carryOut plan document) := List.foldl_append

section

variable {plan : List Effect} (sited : ∀ effect ∈ plan, effect.Sited offer contract)

include sited

theorem carryOut_enriched (enriched : contract.Enriched offer .contract document) :
    contract.Enriched offer .contract (carryOut plan document) := by
  induction plan generalizing document with
  | nil => exact enriched
  | cons effect plan ih =>
      obtain ⟨first, rest⟩ := List.forall_mem_cons.1 sited
      exact ih rest (first.enriched enriched)

/-- What was done stays done when nothing sets its slot again. -/
theorem isDone_carryOut (enriched : contract.Enriched offer .contract document)
    (own : effect.Sited offer contract) (done : effect.IsDone document)
    (kept : ∀ other ∈ plan, other.slot = effect.slot → other.change.replaces = false) :
    effect.IsDone (carryOut plan document) := by
  induction plan generalizing document with
  | nil => exact done
  | cons other plan ih =>
      obtain ⟨first, rest⟩ := List.forall_mem_cons.1 sited
      obtain ⟨keeps, more⟩ := List.forall_mem_cons.1 kept
      exact ih rest (first.enriched enriched)
        (done.on own.counts first.counts (own.suits enriched) (first.suits enriched) keeps) more

theorem held_carryOut (enriched : contract.Enriched offer .contract document)
    (own : effect.Sited offer contract) (held : effect.Held document) :
    effect.Held (carryOut plan document) := by
  induction plan generalizing document with
  | nil => exact held
  | cons other plan ih =>
      obtain ⟨first, rest⟩ := List.forall_mem_cons.1 sited
      exact ih rest (first.enriched enriched)
        (held.on (own.suits enriched) (first.suits enriched) first.counts)

/-- An effect whose slot is set again later does not matter. -/
theorem carryOut_overwritten (enriched : contract.Enriched offer .contract document)
    (own : effect.Sited offer contract) (held : effect.Held document)
    (again : ∃ other ∈ plan, other.slot = effect.slot ∧ other.change.replaces = true) :
    carryOut plan (effect.on document) = carryOut plan document := by
  induction plan generalizing document with
  | nil =>
      obtain ⟨other, member, -⟩ := again
      cases member
  | cons other plan ih =>
      obtain ⟨first, rest⟩ := List.forall_mem_cons.1 sited
      rw [carryOut_cons, carryOut_cons]
      by_cases here : other.slot = effect.slot ∧ other.change.replaces = true
      · rw [Effect.on_on_of_replaces here.1 here.2]
      · obtain ⟨later, member, same, replaces⟩ := again
        have after : later ∈ plan := by
          rcases List.mem_cons.1 member with rfl | inside
          · exact absurd ⟨same, replaces⟩ here
          · exact inside
        have apart : other.slot ≠ effect.slot := fun equal => here
          ⟨equal, (Change.replaces_of_key (Prod.mk.inj (same.trans equal.symm)).2).symm.trans replaces⟩
        rw [← Effect.on_comm (own.suits enriched) (first.suits enriched) apart held.find?]
        exact ih rest (first.enriched enriched)
          (held.on (own.suits enriched) (first.suits enriched) first.counts)
          ⟨later, after, same, replaces⟩

/-- A plan carried out twice does what it did once. -/
theorem carryOut_carryOut (enriched : contract.Enriched offer .contract document) :
    carryOut plan (carryOut plan document) = carryOut plan document := by
  induction plan generalizing document with
  | nil => rfl
  | cons effect plan ih =>
      obtain ⟨first, rest⟩ := List.forall_mem_cons.1 sited
      have after := first.enriched enriched
      have settled : effect.IsDone (effect.on document) :=
        Effect.isDone_on (first.suits enriched) first.counts
      rw [carryOut_cons, carryOut_cons]
      by_cases again : ∃ other ∈ plan, other.slot = effect.slot ∧ other.change.replaces = true
      · have held := held_carryOut rest after first ⟨effect, rfl, first.counts, settled⟩
        rw [carryOut_overwritten rest (carryOut_enriched rest after) first held again]
        exact ih rest after
      · have kept : ∀ other ∈ plan, other.slot = effect.slot → other.change.replaces = false :=
          fun other member same => Bool.not_eq_true _ ▸ fun replaces =>
            again ⟨other, member, same, replaces⟩
        have done := isDone_carryOut rest after first settled kept
        rw [show effect.on (carryOut plan (effect.on document)) = _ from done]
        exact ih rest after

end

end Contract

end TypedContract
