/-
# TypedContract.Proofs.Signature.Steps -- what it takes for an operation to be built

A step that may give an operation up comes back with what it found, or without, and
`Mapping.returns_bind` and its like say when it comes back with something.  A building ends
with a signature when the search for parameters finds some and all that follows comes back
(`SignatureBuilder.returns_build_some`), and without one when the search finds none
(`SignatureBuilder.returns_build_none`); nothing else is done in either case.
-/
import TypedContract.Proofs.Returning
import TypedContract.Proofs.Steps
import TypedContract.Signature.Builder

namespace TypedContract

set_option autoImplicit false

variable {α β : Type}

/-! ## Steps that may give an operation up -/

namespace Mapping

variable {s t : Session}

theorem returns_bind {first : Mapping β} {next : β → Mapping α} {a : α} :
    Run.Returns (first >>= next).run s (some a) t ↔
      ∃ b u, Run.Returns first.run s (some b) u ∧ Run.Returns (next b).run u (some a) t := by
  rw [OptionT.run_bind]
  refine Run.returns_bind.trans ?_
  constructor
  · rintro ⟨result, u, head, rest⟩
    cases result with
    | none => cases (Run.returns_pure.1 rest).1
    | some b => exact ⟨b, u, head, rest⟩
  · rintro ⟨b, u, head, rest⟩
    exact ⟨some b, u, head, rest⟩

theorem returns_pure {a b : α} :
    Run.Returns (pure a : Mapping α).run s (some b) t ↔ a = b ∧ s = t := by
  rw [OptionT.run_pure, Run.returns_pure, Option.some_inj]

theorem returns_step {run : Run α} {a : α} :
    Run.Returns (OptionT.lift run).run s (some a) t ↔ Run.Returns run s a t := by
  rw [OptionT.run_lift, Run.returns_bind]
  simp only [Run.returns_pure, Option.some_inj]
  constructor
  · rintro ⟨b, u, own, rfl, rfl⟩
    exact own
  · exact fun own => ⟨a, t, own, rfl, rfl⟩

theorem returns_lift {result : Except Fault α} {a : α} :
    Run.Returns (Mapping.lift result).run s (some a) t ↔ result = .ok a ∧ s = t := by
  rw [Mapping.lift, returns_step, Run.returns_lift]

theorem returns_read {result : Except Fault β} {next : β → Mapping α} {a : α} :
    Run.Returns (Mapping.lift result >>= next).run s (some a) t ↔
      ∃ b, result = .ok b ∧ Run.Returns (next b).run s (some a) t := by
  rw [returns_bind]
  simp only [returns_lift]
  constructor
  · rintro ⟨b, u, ⟨read, rfl⟩, rest⟩
    exact ⟨b, read, rest⟩
  · rintro ⟨b, read, rest⟩
    exact ⟨b, s, ⟨read, rfl⟩, rest⟩

theorem not_returns_giveUp {code : Diagnostic.Code} {args : List String} {a : α} :
    ¬ Run.Returns (Mapping.giveUp code args : Mapping α).run s (some a) t := by
  intro returned
  obtain ⟨_, u, -, failed⟩ := returns_bind.1 returned
  cases (Run.returns_pure.1 failed).1

end Mapping

/-! ## Building -/

theorem Json.plain_of_plainWithin {value : Json} {text : String}
    (worded : value.plainWithin = .ok text) : value.plain = text := by
  unfold Json.plainWithin at worded
  split at worded
  · exact Except.ok.inj worded
  · cases worded

namespace SignatureBuilder

variable {builder : SignatureBuilder} {functionName method path : String}
  {operation shared : Node} {s t : Session}

/-- The description of an operation: its summary, else its longer text. -/
def describe (operation : Node) : Except Fault String := do
  let summary ← operation.value.member "summary"
  let text ← operation.value.member "description"
  Schema.strip (summary.orElse (text.orElse (.str "")))

/-- The steps of a building that ends with a signature. -/
structure Steps (builder : SignatureBuilder) (functionName method path : String)
    (operation shared : Node) (candidates kept : List Parameter) (signature : Signature)
    (s u v t : Session) : Prop where
  searched : Run.Returns (builder.candidates operation shared (Name.pascal functionName)).run s
    (some candidates) u
  chosen : Run.Returns (distinct functionName [] candidates) u kept v
  identified : operation.value.member "operationId" = .ok signature.operationId
  typed : Run.Returns (builder.returnType operation (Name.pascal functionName)) v
    signature.returnType t
  described : describe operation = .ok signature.description
  functionName : signature.functionName = functionName
  method : signature.method = method
  path : signature.path = path
  parameters : signature.parameters = kept.filter (·.required) ++ kept.filter (!·.required)

theorem returns_build_some {signature : Signature} :
    Run.Returns (builder.build functionName method path operation shared) s (some signature) t ↔
      ∃ candidates kept u v, builder.Steps functionName method path operation shared candidates kept
        signature s u v t := by
  unfold build
  simp only [Run.returns_bind, Run.returns_registry]
  constructor
  · rintro ⟨_, _, ⟨rfl, rfl⟩, found, u, searched, rest⟩
    cases found with
    | none =>
        simp only [Run.returns_bind, Run.returns_pure] at rest
        obtain ⟨_, _, -, _, _, -, _, _, -, _, _, -, ⟨⟩, -⟩ := rest
    | some candidates =>
        simp only [Run.returns_bind, Run.returns_pure, Run.returns_lift] at rest
        obtain ⟨kept, v, chosen, id, _, ⟨identified, rfl⟩, type, w, typed, summary, _,
          ⟨summarized, rfl⟩, text, _, ⟨told, rfl⟩, description, _, ⟨stripped, rfl⟩, ⟨⟩, rfl⟩ := rest
        have described : describe operation = .ok description :=
          except_bind_eq_ok.2 ⟨summary, summarized, except_bind_eq_ok.2 ⟨text, told, stripped⟩⟩
        exact ⟨candidates, kept, u, v, searched, chosen, identified, typed, described, rfl, rfl, rfl,
          rfl⟩
  · rintro ⟨candidates, kept, u, v, steps⟩
    obtain ⟨searched, chosen, identified, typed, described, rfl, rfl, rfl, parameters⟩ := steps
    obtain ⟨summary, summarized, described⟩ := except_bind_eq_ok.1 described
    obtain ⟨text, told, stripped⟩ := except_bind_eq_ok.1 described
    refine ⟨_, s, ⟨rfl, rfl⟩, some candidates, u, searched, ?_⟩
    simp only [Run.returns_bind, Run.returns_pure, Run.returns_lift]
    exact ⟨kept, v, chosen, _, v, ⟨identified, rfl⟩, _, t, typed, summary, t, ⟨summarized, rfl⟩,
      text, t, ⟨told, rfl⟩, _, t, ⟨stripped, rfl⟩, by rw [← parameters], rfl⟩

/-- A building that ends without a signature brings the registry back and reports it. -/
theorem returns_build_none
    (returned : Run.Returns (builder.build functionName method path operation shared) s none t) :
    ∃ u log operationId,
      Run.Returns (builder.candidates operation shared (Name.pascal functionName)).run s none u ∧
      operation.value.member "operationId" = .ok operationId ∧
      t = { u with
        registry := u.registry.rollback s.registry.checkpoint
        log := log
        diagnostics := u.diagnostics ++
          [⟨.signatureFailed, [(operationId.orElse (.str functionName)).plain], none⟩] } := by
  unfold build at returned
  simp only [Run.returns_bind, Run.returns_registry] at returned
  obtain ⟨_, _, ⟨rfl, rfl⟩, found, u, searched, rest⟩ := returned
  cases found with
  | none =>
      simp only [Run.returns_bind, Run.returns_lift, Run.returns_report, Run.returns_pure] at rest
      obtain ⟨_, w, rolled, operationId, _, ⟨named, rfl⟩, label, _, ⟨worded, rfl⟩, -, _, rfl, -,
        rfl⟩ := rest
      obtain ⟨log, again⟩ := Run.exists_rollback s.registry.checkpoint u
      obtain ⟨-, rfl⟩ := rolled.unique again
      obtain rfl := Json.plain_of_plainWithin worded
      exact ⟨u, log, operationId, searched, named, rfl⟩
  | some candidates =>
      simp only [Run.returns_bind, Run.returns_pure] at rest
      obtain ⟨_, _, -, _, _, -, _, _, -, _, _, -, _, _, -, _, _, -, ⟨⟩, -⟩ := rest

end SignatureBuilder

end TypedContract
