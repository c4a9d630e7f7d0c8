/-
# TypedContract.Proofs.Carrying -- steps that keep the registry closed

A step that begins in a closed registry and knows some types that the registry
covers *carries* the types of its result when it ends in a closed registry that
covers these too, having only added to the session.  Steps that carry compose, what
one of them gives the next one knows, and they satisfy the rules for the building of
signatures (`Run.Carries.rules`).
-/
import TypedContract.Proofs.Signature.Rules
import TypedContract.Proofs.Translation.Closed
import TypedContract.Proofs.Translation.Soundness

namespace TypedContract

set_option autoImplicit false

variable {α β : Type}

namespace Run

/-- Begun in a closed registry that covers the known types, the step only adds and
ends in a closed registry that covers the types of its result. -/
structure Carries (known : List Ty) (step : Run α) (types : α → List Ty) : Prop where
  keeps : ∀ {s t : Session} {a : α}, s.registry.Closed →
    (∀ type ∈ known, s.registry.Covers type) → Returns step s a t →
      s.Grows t ∧ t.registry.Closed ∧ ∀ type ∈ types a, t.registry.Covers type

namespace Carries

variable {known : List Ty} {step : Run α} {types : α → List Ty}

theorem pure {a : α} (covered : ∀ type ∈ types a, type ∈ known) :
    Carries known (Pure.pure a : Run α) types := by
  refine ⟨fun {s t b} closed covers returned => ?_⟩
  obtain ⟨rfl, rfl⟩ := returns_pure.1 returned
  exact ⟨.refl s, closed, fun type member => covers type (covered type member)⟩

/-- A result whose types refer to nothing. -/
theorem leaf {a : α} (free : ∀ type ∈ types a, type.references = []) :
    Carries known (Pure.pure a : Run α) types := by
  refine ⟨fun {s t b} closed covers returned => ?_⟩
  obtain ⟨rfl, rfl⟩ := returns_pure.1 returned
  refine ⟨.refl s, closed, fun type member name inside => ?_⟩
  rw [free type member] at inside
  cases inside

/-- The next step also knows what the first one gives. -/
theorem bind {given : β → List Ty} {next : β → Run α} {first : Run β}
    (head : Carries known first given)
    (tail : ∀ b, Carries (given b ++ known) (next b) types) :
    Carries known (first >>= next) types := by
  refine ⟨fun {s t a} closed covers returned => ?_⟩
  obtain ⟨b, u, returnedFirst, returnedNext⟩ := returns_bind.1 returned
  obtain ⟨grows, middle, gives⟩ := head.keeps closed covers returnedFirst
  have stillCovers : ∀ type ∈ given b ++ known, u.registry.Covers type := by
    intro type member
    rcases List.mem_append.1 member with new | old
    · exact gives type new
    · exact (covers type old).mono fun name => grows.contains
  obtain ⟨more, after, covered⟩ := (tail b).keeps middle stillCovers returnedNext
  exact ⟨grows.trans more, after, covered⟩

/-- A first step whose result has no types. -/
theorem next {next : β → Run α} {first : Run β} (head : Carries known first untyped)
    (tail : ∀ b, Carries known (next b) types) : Carries known (first >>= next) types :=
  bind head fun b => tail b

/-- A step that leaves the session alone. -/
theorem still (idle : ∀ {s t : Session} {a : α}, Returns step s a t → s = t) :
    Carries known step untyped := by
  refine ⟨fun {s t a} closed covers returned => ?_⟩
  obtain rfl := idle returned
  exact ⟨.refl s, closed, fun type member => by simp [untyped] at member⟩

theorem lift {result : Except Fault α} : Carries known (Run.lift result) untyped :=
  still fun returned => (returns_lift.1 returned).2

theorem registry : Carries known Run.registry untyped :=
  still fun returned => (returns_registry.1 returned).2

theorem throw {fault : Fault} : Carries known (MonadExcept.throw fault : Run α) types :=
  ⟨fun _ _ returned => absurd returned not_returns_throw⟩

theorem note {level : Log.Level} {source : Log.Source} {message : String} :
    Carries known (Run.note level source message) untyped := by
  refine ⟨fun {s t a} closed covers returned => ?_⟩
  obtain rfl := returns_note.1 returned
  have grows : s.Grows { s with log := s.log ++ [⟨level, source, message⟩] } :=
    ⟨List.prefix_rfl, rfl, rfl, rfl, List.suffix_rfl, fun _ _ absent => absent, rfl⟩
  exact ⟨grows, closed, fun type member => by simp [untyped] at member⟩

theorem report {code : Diagnostic.Code} {args : List String}
    (other : code ≠ .danglingReference) : Carries known (Run.report code args) untyped := by
  refine ⟨fun {s t a} closed covers returned => ?_⟩
  obtain rfl := returns_report.1 returned
  exact ⟨.reported s _ args other, closed, fun type member => by simp [untyped] at member⟩

/-- Carrying satisfies the rules for the building of signatures. -/
theorem rules : Rules fun _ known step types => Carries known step types where
  pure := pure
  leaf := leaf
  bind := bind
  lift := lift
  registry := registry
  throw := throw
  note := note
  report := report

end Carries

end Run

/-! ## Translations -/

/-- A translation of a schema of the document carries its type. -/
theorem Translator.carries_translateNode {translator : Translator} {schemas : Node}
    (sound : translator.ties.Sound schemas) {known : List Ty} {node : Node} {context : String} :
    Run.Carries known (translator.translateNode node context) fun type => [type] := by
  refine .next .lift fun schema => ⟨fun {s t type} closed covers returned => ?_⟩
  have derived := Translation.derives_translate sound returned
  obtain ⟨after, covered⟩ := derived.closed closed (by simp [Translation.Judgement.given])
  exact ⟨derived.grows, after, covered⟩

/-- A registration of a component carries its type. -/
theorem Translator.carries_component {translator : Translator} {schemas : Node}
    (sound : translator.ties.Sound schemas) {known : List Ty} {name : String} :
    Run.Carries known (translator.component name) fun type => [type] := by
  refine ⟨fun {s t type} closed covers returned => ?_⟩
  have derived := sound.component returned
  obtain ⟨after, covered⟩ := derived.closed closed (by simp [Translation.Judgement.given])
  exact ⟨derived.grows, after, covered⟩

end TypedContract
