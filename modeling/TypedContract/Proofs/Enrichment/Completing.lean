/-
# TypedContract.Proofs.Enrichment.Completing -- whether a step of an enrichment comes back

A step of an enrichment comes back or faults, and which of the two can be told from the
contract as it was before anything was written.  A step with a result `Mirrors` a reading of
that contract: begun on any draft enriched from the contract, it comes back exactly when the
reading does, with a result related to the reading's.  A step without one `Succeeds` under a
condition: it comes back exactly when the condition holds.  Either way the draft after the
step is enriched from the contract again, so the next step can be asked the same.

Each way of putting steps together has one rule.  A condition is the conjunction of what the
steps ask for; a loop asks it of each item.
-/
import TypedContract.Proofs.Enrichment.Described

namespace TypedContract

set_option autoImplicit false

open Contract (Part)

/-- The value is an object. -/
def Json.IsObject (value : Json) : Prop := ∃ entries, value = .object entries

namespace Edit

variable {offer : Offer} {contract : Json} {α β γ δ : Type}

/-- The step comes back exactly when the reading of the contract does, with a related
result. -/
def Mirrors (offer : Offer) (contract : Json) (reading : Except Fault α) (related : α → β → Prop)
    (step : Edit β) : Prop :=
  ∀ d : Draft, contract.Enriched offer .contract d.document →
    (∀ a, reading = .ok a → ∃ b e, Returns step d b e ∧ related a b ∧
      contract.Enriched offer .contract e.document) ∧
    ∀ b e, Returns step d b e → ∃ a, reading = .ok a

/-- The step comes back exactly under the condition. -/
def Succeeds (offer : Offer) (contract : Json) (condition : Prop) (step : Edit Unit) : Prop :=
  ∀ d : Draft, contract.Enriched offer .contract d.document →
    (condition → ∃ e, Returns step d () e ∧ contract.Enriched offer .contract e.document) ∧
    ∀ e, Returns step d () e → condition

/-! ## Steps with a result -/

namespace Mirrors

variable {reading : Except Fault α} {further : α → Except Fault γ} {related : α → β → Prop}
  {final : γ → δ → Prop} {step : Edit β} {later : β → Edit δ}

/-- A step that leaves the document alone and comes back when the reading does. -/
theorem still (each : ∀ {d : Draft}, contract.Enriched offer .contract d.document →
    (∀ a, reading = .ok a → ∃ b e, Returns step d b e ∧ related a b ∧ e.document = d.document) ∧
    ∀ b e, Returns step d b e → ∃ a, reading = .ok a) :
    Mirrors offer contract reading related step := by
  intro d enriched
  refine ⟨fun a read => ?_, (each enriched).2⟩
  obtain ⟨b, e, returned, results, same⟩ := (each enriched).1 a read
  exact ⟨b, e, returned, results, same ▸ enriched⟩

theorem pure {a : α} {b : β} (results : related a b) :
    Mirrors offer contract (.ok a) related (pure b) :=
  still fun _ => ⟨fun _ read => ⟨b, _, returns_pure.2 ⟨rfl, rfl⟩, Except.ok.inj read ▸ results, rfl⟩,
    fun _ _ _ => ⟨a, rfl⟩⟩

theorem throw {fault fault' : Fault} :
    Mirrors offer contract (.error fault) related (throw fault') :=
  still fun _ => ⟨nofun, fun _ _ returned => absurd returned not_returns_throw⟩

/-- A question that counterparts answer alike. -/
theorem ask {answer : Except Fault β} (agree : Agree related reading answer) :
    Mirrors offer contract reading related (Edit.lift answer) :=
  still fun _ => by
    refine ⟨fun a read => ?_, fun b e returned => ?_⟩
    · obtain ⟨b, answered, results⟩ := agree.exists_right read
      exact ⟨b, _, returns_lift.2 ⟨answered, rfl⟩, results, rfl⟩
    · obtain ⟨a, read, -⟩ := agree.exists_left (returns_lift.1 returned).1
      exact ⟨a, read⟩

/-- The same question. -/
theorem read {answer : Except Fault α} (same : answer = reading) :
    Mirrors offer contract reading Eq (Edit.lift answer) :=
  ask (Agree.of_eq same)

theorem refresh {part : Part} {origin node : Node}
    (counterpart : Node.Counterpart offer contract part origin node) :
    Mirrors offer contract (.ok origin) (Node.Counterpart offer contract part) (Edit.refresh node) :=
  still fun enriched => ⟨fun _ read => ⟨_, _, returns_refresh.2 ⟨rfl, rfl⟩,
    Except.ok.inj read ▸ counterpart.refreshed enriched, rfl⟩, fun _ _ _ => ⟨origin, rfl⟩⟩

theorem root : Mirrors offer contract (.ok (.root 0 contract))
    (Node.Counterpart offer contract .contract) Edit.root :=
  still fun enriched => ⟨fun _ read => ⟨_, _, returns_root.2 ⟨rfl, rfl⟩,
    Except.ok.inj read ▸ .root enriched, rfl⟩, fun _ _ _ => ⟨_, rfl⟩⟩

theorem get : Mirrors offer contract (.ok ()) (fun _ _ => True) (get : Edit Draft) :=
  still fun _ => ⟨fun _ _ => ⟨_, _, returns_get.2 ⟨rfl, rfl⟩, trivial, rfl⟩, fun _ _ _ => ⟨(), rfl⟩⟩

theorem bind (first : Mirrors offer contract reading related step)
    (rest : ∀ a b, reading = .ok a → related a b →
      Mirrors offer contract (further a) final (later b)) :
    Mirrors offer contract (reading >>= further) final (step >>= later) := by
  intro d enriched
  obtain ⟨forward, backward⟩ := first d enriched
  refine ⟨fun c read => ?_, fun c e returned => ?_⟩
  · obtain ⟨a, read, later⟩ := except_bind_eq_ok.1 read
    obtain ⟨b, f, returned, results, inner⟩ := forward a read
    obtain ⟨c', e, returned', final, outer⟩ := (rest a b read results f inner).1 c later
    exact ⟨c', e, returns_bind.2 ⟨b, f, returned, returned'⟩, final, outer⟩
  · obtain ⟨b, f, returned, returned'⟩ := returns_bind.1 returned
    obtain ⟨a, read⟩ := backward b f returned
    obtain ⟨b', f', again, results, inner⟩ := forward a read
    obtain ⟨rfl, rfl⟩ := returned.unique again
    obtain ⟨c', later⟩ := (rest a b read results f inner).2 c e returned'
    exact ⟨c', except_bind_eq_ok.2 ⟨a, read, later⟩⟩

/-- A first step that always comes back. -/
theorem next {reading : Except Fault γ} {a : α} (first : Mirrors offer contract (.ok a) related step)
    (rest : ∀ b, related a b → Mirrors offer contract reading final (later b)) :
    Mirrors offer contract reading final (step >>= later) :=
  show Mirrors offer contract ((Except.ok a : Except Fault α) >>= fun _ => reading) final
      (step >>= later) from
    first.bind fun _ b same results => rest b (Except.ok.inj same ▸ results)

theorem mono {weaker : α → β → Prop} (mirrors : Mirrors offer contract reading related step)
    (weaken : ∀ a b, reading = .ok a → related a b → weaker a b) :
    Mirrors offer contract reading weaker step := by
  intro d enriched
  refine ⟨fun a read => ?_, (mirrors d enriched).2⟩
  obtain ⟨b, e, returned, results, after⟩ := (mirrors d enriched).1 a read
  exact ⟨b, e, returned, weaken a b read results, after⟩

end Mirrors

/-! ## Steps under a condition -/

namespace Succeeds

variable {condition other : Prop} {reading : Except Fault α} {related : α → β → Prop}
  {step later : Edit Unit} {asking : Edit β} {next : β → Edit Unit}

theorem iff (succeeds : Succeeds offer contract condition step) (same : condition ↔ other) :
    Succeeds offer contract other step :=
  fun d enriched => ⟨fun holds => (succeeds d enriched).1 (same.2 holds),
    fun e returned => same.1 ((succeeds d enriched).2 e returned)⟩

theorem pure : Succeeds offer contract True (pure ()) :=
  fun d enriched => ⟨fun _ => ⟨d, returns_pure.2 ⟨rfl, rfl⟩, enriched⟩, fun _ _ => trivial⟩

theorem throw {fault : Fault} : Succeeds offer contract False (throw fault) :=
  fun _ _ => ⟨nofun, fun _ returned => not_returns_throw returned⟩

/-- A step with a result, and then a step that depends on it. -/
theorem after {condition : α → Prop} (first : Mirrors offer contract reading related asking)
    (rest : ∀ a b, reading = .ok a → related a b → Succeeds offer contract (condition a) (next b)) :
    Succeeds offer contract (∃ a, reading = .ok a ∧ condition a) (asking >>= next) := by
  intro d enriched
  obtain ⟨forward, backward⟩ := first d enriched
  constructor
  · rintro ⟨a, read, holds⟩
    obtain ⟨b, f, returned, results, inner⟩ := forward a read
    obtain ⟨e, returned', outer⟩ := (rest a b read results f inner).1 holds
    exact ⟨e, returns_bind.2 ⟨b, f, returned, returned'⟩, outer⟩
  · intro e returned
    obtain ⟨b, f, returned, returned'⟩ := returns_bind.1 returned
    obtain ⟨a, read⟩ := backward b f returned
    obtain ⟨b', f', again, results, inner⟩ := forward a read
    obtain ⟨rfl, rfl⟩ := returned.unique again
    exact ⟨a, read, (rest a b read results f inner).2 e returned'⟩

/-- A first step whose result is known. -/
theorem given {a : α} (first : Mirrors offer contract reading related asking)
    (known : reading = .ok a)
    (rest : ∀ b, related a b → Succeeds offer contract condition (next b)) :
    Succeeds offer contract condition (asking >>= next) := by
  have whole : Succeeds offer contract (∃ a, reading = .ok a ∧ condition) (asking >>= next) :=
    after first fun a' b read results => rest b (Except.ok.inj (read.symm.trans known) ▸ results)
  exact whole.iff ⟨fun ⟨_, _, holds⟩ => holds, fun holds => ⟨a, known, holds⟩⟩

/-- A first step that faults. -/
theorem never (first : Mirrors offer contract reading related asking)
    (faults : ¬ ∃ a, reading = .ok a) : Succeeds offer contract False (asking >>= next) := by
  have whole : Succeeds offer contract (∃ a, reading = .ok a ∧ False) (asking >>= next) :=
    after first fun a _ read _ => absurd ⟨a, read⟩ faults
  exact whole.iff ⟨fun ⟨_, _, no⟩ => no, False.elim⟩

/-- The second step is only taken under the condition of the first. -/
theorem seq (first : Succeeds offer contract condition step)
    (second : condition → Succeeds offer contract other later) :
    Succeeds offer contract (condition ∧ other) (step >>= fun _ => later) := by
  intro d enriched
  obtain ⟨forward, backward⟩ := first d enriched
  constructor
  · rintro ⟨one, two⟩
    obtain ⟨f, returned, inner⟩ := forward one
    obtain ⟨e, returned', outer⟩ := (second one f inner).1 two
    exact ⟨e, returns_bind.2 ⟨(), f, returned, returned'⟩, outer⟩
  · intro e returned
    obtain ⟨_, f, returned, returned'⟩ := returns_bind.1 returned
    have one := backward f returned
    obtain ⟨f', again, inner⟩ := forward one
    obtain ⟨-, rfl⟩ := returned.unique again
    exact ⟨one, (second one f inner).2 e returned'⟩

theorem report {code : Diagnostic.Code} {args : List String} {location : Option Location} :
    Succeeds offer contract True (Edit.report code args location) :=
  fun _ enriched => ⟨fun _ => ⟨_, returns_report.2 rfl, enriched⟩, fun _ _ => trivial⟩

theorem note {level : Log.Level} {source : Log.Source} {message : String} :
    Succeeds offer contract True (Edit.note level source message) :=
  fun _ enriched => ⟨fun _ => ⟨_, returns_note.2 rfl, enriched⟩, fun _ _ => trivial⟩

/-- A step that always comes back has nothing to tell. -/
theorem mirrors (succeeds : Succeeds offer contract True step) :
    Mirrors offer contract (.ok ()) (fun _ _ => True) step := by
  intro d enriched
  obtain ⟨e, returned, after⟩ := (succeeds d enriched).1 trivial
  exact ⟨fun _ _ => ⟨(), e, returned, trivial, after⟩, fun _ _ _ => ⟨(), rfl⟩⟩

/-! ## Loops -/

theorem forM {condition : γ → Prop} {related : γ → δ → Prop} {origins : List γ} {items : List δ}
    {step : δ → Edit Unit} (both : List.Forall₂ related origins items)
    (each : ∀ a b, a ∈ origins → related a b → Succeeds offer contract (condition a) (step b)) :
    Succeeds offer contract (∀ a ∈ origins, condition a) (items.forM step) := by
  induction both with
  | nil => exact pure.iff ⟨fun _ => nofun, fun _ => trivial⟩
  | cons head tail ih =>
      have later := ih fun a b member => each a b (List.mem_cons_of_mem _ member)
      refine ((each _ _ List.mem_cons_self head).seq fun _ => later).iff ?_
      rw [List.forall_mem_cons]

/-- The same list on both sides. -/
theorem forM_same {condition : γ → Prop} {items : List γ} {step : γ → Edit Unit}
    (each : ∀ a ∈ items, Succeeds offer contract (condition a) (step a)) :
    Succeeds offer contract (∀ a ∈ items, condition a) (items.forM step) := by
  induction items with
  | nil => exact pure.iff ⟨fun _ => nofun, fun _ => trivial⟩
  | cons a items ih =>
      obtain ⟨first, rest⟩ := List.forall_mem_cons.1 each
      refine (first.seq fun _ => ih rest).iff ?_
      rw [List.forall_mem_cons]

/-! ## Changes of nodes -/

variable {part : Part} {origin node : Node}

/-- Examples can be assigned to what was an object before. -/
theorem assign {which : Example.Which} {value : Json}
    (counterpart : Node.Counterpart offer contract part origin node)
    (takes : ∀ entries, origin.value = .object entries → Offer.TakesExamples part entries)
    (offered : offer.examples which value) :
    Succeeds offer contract origin.value.IsObject (Edit.assign node which.key value) := by
  intro d enriched
  constructor
  · rintro ⟨before, object⟩
    obtain ⟨entries, now, -⟩ := object_refreshed counterpart enriched object
    refine ⟨_, returns_assign.2 ⟨entries, now, rfl⟩, ?_⟩
    have sited := sited_effectsAt (.examples which value) counterpart object ⟨takes _ object, offered⟩
    rw [show assigned node which.key value entries d.document =
        Contract.carryOut (effectsAt origin (.examples which value)) d.document from
      assigned_eq counterpart enriched now rfl]
    exact Contract.carryOut_enriched sited enriched
  · intro e returned
    obtain ⟨entries, now, -⟩ := returns_assign.1 returned
    exact object_of_refreshed counterpart enriched now

/-- What was an object before can be described; what has nothing to say asks for nothing. -/
theorem describe {documentation : Json} (takes : part.takesDescription = true)
    (counterpart : Node.Counterpart offer contract part origin node)
    (offered : documentation.truthy = true → offer.descriptions documentation) :
    Succeeds offer contract (documentation.truthy = true → origin.value.IsObject)
      (Enrichment.describe node documentation) := by
  intro d enriched
  rcases Bool.eq_false_or_eq_true documentation.truthy with counts | silent
  · refine ⟨fun object => ?_, fun e returned _ =>
      object_of_describe counterpart enriched counts returned⟩
    obtain ⟨before, object⟩ := object counts
    obtain ⟨e, returned, -, document⟩ := returns_describe counterpart enriched object takes counts
    have sited := sited_description counterpart object takes (offered counts)
    exact ⟨e, returned, document ▸ Contract.carryOut_enriched sited enriched⟩
  · have idle : Enrichment.describe node documentation = Pure.pure () := by
      unfold Enrichment.describe
      rw [if_pos (by rw [silent]; rfl)]
    rw [idle]
    refine pure.iff ⟨fun _ counts => ?_, fun _ => trivial⟩ d enriched
    rw [silent] at counts
    cases counts

end Succeeds

end Edit

end TypedContract
