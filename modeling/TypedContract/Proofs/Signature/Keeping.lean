/-
# TypedContract.Proofs.Signature.Keeping -- what the building of signatures keeps

Signatures change the registry in two ways: they translate schemas, and an operation that
is given up drops what was registered since its beginning.  A property of sessions that
outlives both and any note (`Outlasting`) therefore outlives the building of all signatures
(`Fragments.keeps_signatures`), so an invariant between operations needs no walk through
their parts.

Dropping is about two sessions, that at the beginning of the operation and the one it grew
into; hence a step that keeps a property also only adds (`Run.Keeps`).
-/
import TypedContract.Fragments
import TypedContract.Proofs.Signature.Closed

namespace TypedContract

set_option autoImplicit false

variable {α β : Type} {holds : Session → Prop}

/-- Begun where the property holds, the step only adds and ends where it holds. -/
structure Run.Keeps (holds : Session → Prop) (step : Run α) : Prop where
  keep : ∀ {s t : Session} {a : α}, Run.Returns step s a t → holds s → s.Grows t ∧ holds t

/-- The property is about the registry and the places, and giving up what was registered
since a session with the property restores it. -/
structure Outlasting (holds : Session → Prop) : Prop where
  noted : ∀ {s t : Session}, holds s → t.registry = s.registry → t.hoisted = s.hoisted → holds t
  dropped : ∀ {s t : Session}, holds s → s.Grows t → holds t →
    holds { t with registry := s.registry }

namespace Run.Keeps

/-- A step that leaves the session alone. -/
theorem still {step : Run α}
    (idle : ∀ {s t : Session} {a : α}, Run.Returns step s a t → s = t) : Keeps holds step := by
  refine ⟨fun {s t a} returned start => ?_⟩
  obtain rfl := idle returned
  exact ⟨.refl s, start⟩

theorem bind {first : Run β} {next : β → Run α} (head : Keeps holds first)
    (tail : ∀ b, Keeps holds (next b)) : Keeps holds (first >>= next) := by
  refine ⟨fun {s t a} returned start => ?_⟩
  obtain ⟨b, u, one, rest⟩ := Run.returns_bind.1 returned
  obtain ⟨grows, middle⟩ := head.keep one start
  obtain ⟨more, finish⟩ := (tail b).keep rest middle
  exact ⟨grows.trans more, finish⟩

theorem pure {a : α} : Keeps holds (Pure.pure a) :=
  still fun returned => (Run.returns_pure.1 returned).2

variable (outlasting : Outlasting holds)

include outlasting

theorem note {level : Log.Level} {source : Log.Source} {message : String} :
    Keeps holds (Run.note level source message) := by
  refine ⟨fun {s t a} returned start => ?_⟩
  obtain rfl := Run.returns_note.1 returned
  have grows : s.Grows { s with log := s.log ++ [⟨level, source, message⟩] } :=
    ⟨List.prefix_rfl, rfl, rfl, rfl, List.suffix_rfl, fun _ _ absent => absent, rfl⟩
  exact ⟨grows, outlasting.noted start rfl rfl⟩

theorem report {code : Diagnostic.Code} {args : List String} (other : code ≠ .danglingReference) :
    Keeps holds (Run.report code args) := by
  refine ⟨fun {s t a} returned start => ?_⟩
  obtain rfl := Run.returns_report.1 returned
  exact ⟨.reported s code args other, outlasting.noted start rfl rfl⟩

/-- Keeping such a property satisfies the rules for the building of signatures. -/
theorem rules : Run.Rules fun _ _ step _ => Keeps holds step where
  pure := fun _ => pure
  leaf := fun _ => pure
  bind := bind
  lift := still fun returned => (Run.returns_lift.1 returned).2
  registry := still fun returned => (Run.returns_registry.1 returned).2
  throw := ⟨fun returned => absurd returned Run.not_returns_throw⟩
  note := note outlasting
  report := report outlasting

end Run.Keeps

/-! ## Signatures -/

section

variable {builder : SignatureBuilder} (outlasting : Outlasting holds)
  (translates : ∀ {node : Node} {context : String},
    Run.Keeps holds (builder.translator.translateNode node context))

include outlasting translates

theorem SignatureBuilder.keeps_build {functionName method path : String} {operation shared : Node} :
    Run.Keeps holds (builder.build functionName method path operation shared) := by
  have rules := Run.Keeps.rules outlasting
  have searches : Mapping.KeepsTo (fun _ _ step _ => Run.Keeps holds step) []
      (builder.candidates operation shared (Name.pascal functionName)) Parameter.types :=
    rules.candidates translates
  refine ⟨fun {s t built} returned start => ?_⟩
  unfold build at returned
  simp only [Run.returns_bind, Run.returns_registry] at returned
  obtain ⟨_, u, ⟨rfl, rfl⟩, found, v, searched, rest⟩ := returned
  obtain ⟨grows, after⟩ := searches.keep searched start
  cases found with
  | none =>
      simp only [Run.returns_bind, Run.returns_lift, Run.returns_pure] at rest
      obtain ⟨_, w, rolled, operationId, _, ⟨-, rfl⟩, label, _, ⟨-, rfl⟩, _, x, told, -, rfl⟩ := rest
      -- what the candidates registered is dropped, so the run ends where it began but for the log
      obtain ⟨log, again⟩ := Run.exists_rollback s.registry.checkpoint v
      obtain ⟨-, rfl⟩ := rolled.unique again
      have dropped := grows.dropped
      rw [grows.registry_rollback] at dropped told
      have restored : holds { v with registry := s.registry, log := log } :=
        outlasting.noted (outlasting.dropped start grows after) rfl rfl
      obtain ⟨more, finish⟩ := (Run.Keeps.report outlasting (by decide)).keep told restored
      have whole : s.Grows { v with registry := s.registry, log := log } :=
        ⟨dropped.entries, dropped.building, dropped.reserved, dropped.rebuilding,
          dropped.hoisted, dropped.waiting, dropped.dangling⟩
      exact ⟨whole.trans more, finish⟩
  | some candidates =>
      obtain ⟨more, finish⟩ :=
        (rules.signature translates fun _ member => member).keep rest after
      exact ⟨grows.trans more, finish⟩

/-- What outlives a translation and the giving up of an operation outlives the building of
all signatures. -/
theorem Fragments.keeps_signatures {operations : List (String × Contract.Operation)} :
    Run.Keeps holds (signatures builder operations) := by
  induction operations with
  | nil => exact .pure
  | cons operation rest ih =>
      refine .bind (SignatureBuilder.keeps_build outlasting translates) fun built => ?_
      cases built with
      | none => exact .bind (.note outlasting) fun _ => ih
      | some signature => exact .bind ih fun others => .pure

end

end TypedContract
