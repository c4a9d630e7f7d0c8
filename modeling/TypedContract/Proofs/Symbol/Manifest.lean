/-
# TypedContract.Proofs.Symbol.Manifest -- what can be wrong with a manifest

A manifest comes with no promise about its shape, and building its model stops at the first
value of a kind that a step cannot work with.  Five causes are possible (`Defect`), each met
by the step that is wrong about the shape: a missing key, a value that cannot be walked, a
value without members, a text that is no number, a number without an integer part.  The
first four count as malformed; the last is met at an infinite line or column.  That the bound
on the nesting of fields is never reached is part of `fails_symbolWithin`.
-/
import TypedContract.Proofs.Schema.Nesting
import TypedContract.Symbol.Manifest

namespace TypedContract

set_option autoImplicit false

/-! ## Steps with known faults -/

/-- Whatever the step fails with is allowed. -/
def FailsWith {α : Type} (allowed : Fault → Prop) (step : Except Fault α) : Prop :=
  ∀ fault, step = .error fault → allowed fault

namespace FailsWith

variable {α β : Type} {allowed : Fault → Prop} {step : Except Fault α} {next : α → Except Fault β}

theorem ok {a : α} : FailsWith allowed (.ok a) := fun _ failed => nomatch failed

theorem error {fault : Fault} (fine : allowed fault) :
    FailsWith allowed (.error fault : Except Fault α) := by
  intro _ failed
  cases failed
  exact fine

/-- The second step need only be looked at after what the first can return. -/
theorem bind (first : FailsWith allowed step) (rest : ∀ a, step = .ok a → FailsWith allowed (next a)) :
    FailsWith allowed (step >>= next) := by
  cases step with
  | ok a => exact rest a rfl
  | error fault => exact fun _ failed => first _ (by cases failed; rfl)

theorem mapM {xs : List α} {step : α → Except Fault β} (each : ∀ x ∈ xs, FailsWith allowed (step x)) :
    FailsWith allowed (xs.mapM step) := by
  induction xs with
  | nil => exact ok
  | cons x xs ih =>
      rw [List.mapM_cons]
      refine bind (each x List.mem_cons_self) fun y _ => ?_
      exact bind (ih fun x inside => each x (List.mem_cons_of_mem _ inside)) fun ys _ => ok

end FailsWith

/-- The causes that a value of the wrong shape can have. -/
inductive Defect : Fault → Prop where
  | missingKey (key : String) : Defect (.missingKey key)
  | unsuitable : Defect .unsuitable
  | noMember : Defect .noMember
  | badValue : Defect .badValue
  | tooLarge : Defect .tooLarge

/-! ## Walking values -/

namespace Json

variable {value : Json} {name : String}

theorem fails_member? : FailsWith Defect (value.member? name) := by
  cases value with
  | object entries => exact .ok
  | _ => exact .error .noMember

theorem fails_member : FailsWith Defect (value.member name) := .bind fails_member? fun _ _ => .ok

theorem fails_required : FailsWith Defect (value.required name) := by
  cases value with
  | object entries =>
      unfold required
      dsimp only
      cases find? name entries with
      | some found => exact .ok
      | none => exact .error (.missingKey name)
  | _ => exact .error .unsuitable

theorem fails_elements : FailsWith Defect value.elements := by
  cases value with
  | list items => exact .ok
  | object entries => exact .ok
  | str text => exact .ok
  | _ => exact .error .unsuitable

theorem fails_entries : FailsWith Defect value.entries := by
  cases value with
  | object entries => exact .ok
  | _ => exact .error .noMember

theorem fails_key : FailsWith Defect value.key := by
  unfold key
  split
  · exact .ok
  · exact .error .unsuitable

theorem fails_writtenWithin : FailsWith Defect value.writtenWithin := by
  unfold writtenWithin
  split
  · exact .ok
  · exact .error .badValue

theorem depth_orElse_empty (value : Json) : (value.orElse (.object [])).depth ≤ value.depth := by
  unfold orElse
  split
  · exact Nat.le_refl _
  · exact depth_pos value

theorem depth_of_mem_entries {field : String} {inner : Json} {entries : List (String × Json)}
    (walked : value.entries = .ok entries) (member : (field, inner) ∈ entries) :
    inner.depth < value.depth := by
  cases value with
  | object held =>
      cases walked
      exact Nat.lt_succ_of_le (depth_le_entriesDepth member)
  | _ => cases walked

theorem depth_member_le {found : Json} (held : value.member name = .ok found) :
    found.depth ≤ value.depth := by
  obtain ⟨inside, found?, same⟩ := except_bind_eq_ok.1 held
  obtain rfl := except_pure_eq_ok.1 same
  cases inside with
  | none => exact depth_pos value
  | some inner =>
      cases value with
      | object entries =>
          exact Nat.le_succ_of_le (depth_le_entriesDepth (mem_of_find? (Except.ok.inj found?)))
      | _ => cases found?

end Json

namespace Manifest

variable {hierarchy : Hierarchy} {source : String} {kind : SymbolKind} {raw name : Json}

/-! ## The steps of the model -/

theorem fails_number {value : Json} : FailsWith Defect (number value) := by
  unfold number
  split
  · exact .ok
  · exact .ok
  · exact .error .badValue
  · split
    · exact .ok
    · exact .error .tooLarge
  · split
    · exact .ok
    · exact .error .badValue
  · exact .error .unsuitable

theorem fails_memberOr {fallback : Json} {name : String} :
    FailsWith Defect (memberOr raw name fallback) := .bind Json.fails_member? fun _ _ => .ok

theorem fails_location : FailsWith Defect (location raw source) := by
  unfold location
  refine .bind Json.fails_member fun file _ => ?_
  dsimp only
  split
  · exact .ok
  · exact .bind fails_memberOr fun line _ => .bind fails_number fun line _ =>
      .bind fails_memberOr fun column _ => .bind fails_number fun column _ => .ok

theorem fails_annotationOf : FailsWith Defect (annotationOf hierarchy raw) := by
  unfold annotationOf
  refine .bind Json.fails_required fun type _ => ?_
  split
  · refine .bind .ok fun qualified _ => .bind Json.fails_entries fun entries _ => ?_
    refine .bind (.mapM fun entry _ => .bind ?_ fun text _ => .ok) fun fields _ => .ok
    unfold expression
    split
    · exact .ok
    · exact Json.fails_writtenWithin
  · exact .bind (.error .noMember) nofun

theorem fails_descriptor : FailsWith Defect (descriptor raw) := by
  unfold descriptor
  refine .bind Json.fails_member fun type _ => ?_
  split
  · exact .ok
  · exact .bind fails_memberOr fun _ _ => .bind fails_memberOr fun _ _ =>
      .bind fails_memberOr fun _ _ => .bind fails_memberOr fun _ _ => .ok

theorem fails_symbolFacts : FailsWith Defect (symbolFacts hierarchy source kind name raw) := by
  unfold symbolFacts
  exact .bind fails_descriptor fun _ _ => .bind Json.fails_member fun _ _ =>
    .bind Json.fails_elements fun _ _ => .bind (.mapM fun _ _ => fails_annotationOf) fun _ _ =>
    .bind fails_memberOr fun _ _ => .bind fails_location fun _ _ => .ok

/-- The fields of a symbol nest less deep than the symbol, so the bound is not reached. -/
theorem fails_symbolWithin {bound : Nat} (deep : raw.depth < bound) :
    FailsWith Defect (symbolWithin hierarchy source bound kind name raw) := by
  induction bound generalizing kind name raw with
  | zero => omega
  | succ bound ih =>
      rw [symbolWithin]
      refine .bind fails_symbolFacts fun facts _ => .bind Json.fails_member fun found held => ?_
      refine .bind Json.fails_entries fun entries walked => ?_
      refine .bind (.mapM fun entry member => .bind (ih ?_) fun _ _ => .ok) fun _ _ => .ok
      have inner := Json.depth_orElse_empty entry.2
      have field := Json.depth_of_mem_entries walked member
      have fields := Json.depth_orElse_empty found
      have whole := Json.depth_member_le held
      omega

theorem fails_parameters : FailsWith Defect (parameters hierarchy source kind raw) :=
  .bind Json.fails_elements fun _ _ => .mapM fun _ _ =>
    .bind Json.fails_required fun _ _ => fails_symbolWithin (Nat.lt_succ_self _)

theorem fails_function : FailsWith Defect (function hierarchy source raw) := by
  unfold function
  exact .bind Json.fails_required fun _ _ => .bind Json.fails_member fun _ _ =>
    .bind fails_parameters fun _ _ => .bind Json.fails_member fun _ _ =>
    .bind fails_parameters fun _ _ => .bind fails_location fun _ _ => .ok

/-- Building the model of a manifest fails at a value of the wrong shape only. -/
theorem fails_model {manifest : Json} : FailsWith Defect (model manifest source) := by
  unfold model
  exact .bind Json.fails_member fun _ _ => .bind Json.fails_entries fun _ _ =>
    .bind (.mapM fun _ _ => .bind Json.fails_elements fun _ _ => .ok) fun _ _ =>
    .bind Json.fails_member fun _ _ => .bind Json.fails_entries fun _ _ =>
    .bind (.mapM fun _ _ => .bind (fails_symbolWithin (Nat.lt_succ_self _)) fun _ _ => .ok) fun _ _ =>
    .bind Json.fails_member fun _ _ => .bind Json.fails_elements fun _ _ =>
    .bind (.mapM fun _ _ => fails_function) fun _ _ =>
    .bind (.mapM fun _ _ => Json.fails_key) fun _ _ => .ok

end Manifest

end TypedContract
