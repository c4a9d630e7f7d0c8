/-
# TypedContract.Proofs.Example.Annotating -- nodes that can be annotated

The annotations of a node are there unless its examples hold an integer with too many
digits: whatever else has no literal expression is reported and left out
(`Literal.answered_encode`).  So a node that could be annotated still can be once a legible
offer was written into it (`follows_annotationsFor`).
-/
import TypedContract.Proofs.Contract.Reading
import TypedContract.Proofs.Following
import TypedContract.Proofs.Literal.Settling

namespace TypedContract

set_option autoImplicit false

open Contract (Part)

namespace Example

open Literal (Answered)

variable {which : Which} {value : Literal} {name : String} {s t : Session}
  {tags : List Annotation}

/-! ## Annotations -/

/-- A value is annotated or reported exactly when its encoding is answered. -/
theorem exists_returns_annotate_iff :
    (∃ tags t, Run.Returns (annotate which value name) s tags t) ↔ Answered value.encode := by
  unfold annotate
  cases value.encode with
  | ok text => exact iff_of_true ⟨_, _, Run.returns_pure.2 ⟨rfl, rfl⟩⟩ .ok
  | error fault =>
      cases fault with
      | malformed why =>
          exact iff_of_true ⟨_, _, Run.returns_bind.2 ⟨(), _, Run.returns_report.2 rfl,
            Run.returns_pure.2 ⟨rfl, rfl⟩⟩⟩ .malformed
      | _ =>
          refine iff_of_false ?_ nofun
          rintro ⟨tags, t, returned⟩
          exact Run.not_returns_throw returned

theorem reworded_of_returns_annotate (returned : Run.Returns (annotate which value name) s tags t) :
    s.Reworded t := by
  unfold annotate at returned
  split at returned
  · exact (Run.returns_pure.1 returned).2 ▸ .refl s
  · obtain ⟨_, u, reported, rest⟩ := Run.returns_bind.1 returned
    obtain rfl := Run.returns_report.1 reported
    obtain ⟨-, rfl⟩ := Run.returns_pure.1 rest
    exact ⟨⟨rfl⟩, rfl, rfl⟩
  · exact absurd returned Run.not_returns_throw

/-- The encoding of the one kind of examples that is there alone is answered. -/
structure Annotated (example? : Option Literal) (examples : Literal) : Prop where
  single : ∀ value, example? = some value → examples = .null → Answered value.encode
  named : example? = none → examples ≠ .null → Answered examples.encode

theorem exists_returns_annotateBoth_iff {example? : Option Literal} {examples : Literal} :
    (∃ tags t, Run.Returns (annotateBoth example? examples name) s tags t) ↔
      Annotated example? examples := by
  unfold annotateBoth
  split
  · exact iff_of_true ⟨_, _, Run.returns_pure.2 ⟨rfl, rfl⟩⟩ ⟨nofun, fun _ some => absurd rfl some⟩
  · rename_i value
    refine exists_returns_annotate_iff.trans ⟨fun answered => ⟨?_, nofun⟩, fun own => ?_⟩
    · rintro _ ⟨⟩ _
      exact answered
    · exact own.single value rfl rfl
  · rename_i values present
    refine exists_returns_annotate_iff.trans
      ⟨fun answered => ⟨nofun, fun _ _ => answered⟩, fun own => ?_⟩
    exact own.named rfl present
  · rename_i value present
    refine iff_of_true ⟨_, _, Run.returns_bind.2 ⟨(), _, Run.returns_report.2 rfl,
      Run.returns_pure.2 ⟨rfl, rfl⟩⟩⟩ ⟨fun _ _ null => ?_, nofun⟩
    exact absurd null present

theorem reworded_of_returns_annotateBoth {example? : Option Literal} {examples : Literal}
    (returned : Run.Returns (annotateBoth example? examples name) s tags t) : s.Reworded t := by
  unfold annotateBoth at returned
  split at returned
  · exact (Run.returns_pure.1 returned).2 ▸ .refl s
  · exact reworded_of_returns_annotate returned
  · exact reworded_of_returns_annotate returned
  · obtain ⟨_, u, reported, rest⟩ := Run.returns_bind.1 returned
    obtain rfl := Run.returns_report.1 reported
    obtain ⟨-, rfl⟩ := Run.returns_pure.1 rest
    exact ⟨⟨rfl⟩, rfl, rfl⟩

/-- Examples are annotated or reported when other examples are. -/
theorem follows_annotateBoth {example? example?' : Option Literal} {examples examples' : Literal}
    (weaker : Annotated example? examples → Annotated example?' examples') :
    Run.Follows (fun _ _ => True) (annotateBoth example? examples name)
      (annotateBoth example?' examples' name) := by
  refine ⟨fun {s s' t tags} reworded returned => ?_⟩
  have own := weaker (exists_returns_annotateBoth_iff.1 ⟨tags, t, returned⟩)
  obtain ⟨tags', t', returned'⟩ := exists_returns_annotateBoth_iff.2 own
  have before := reworded_of_returns_annotateBoth returned
  have after := reworded_of_returns_annotateBoth returned'
  exact ⟨tags', t', returned', trivial, before.symm.trans (reworded.trans after)⟩

/-! ## Nodes -/

theorem ofJson_eq_null {value : Json} : Literal.ofJson value = .null ↔ value = .null := by
  cases value <;> simp [Literal.ofJson]

section

variable {offer : Offer} {part : Part} {old new : Json}

/-- Examples that were there, or were written from a legible offer, are answered. -/
theorem annotated_enriched {whole entries entries' : List (String × Json)}
    (enriched : Json.EnrichedEntries offer part whole entries entries') (legible : offer.Legible)
    (quiet : ∀ which : Which, (part.child which.key).quiet = true)
    (own : Annotated ((Json.find? Which.example.key entries).map Literal.ofJson)
      (Literal.ofJson ((Json.find? Which.examples.key entries).getD .null))) :
    Annotated ((Json.find? Which.example.key entries').map Literal.ofJson)
      (Literal.ofJson ((Json.find? Which.examples.key entries').getD .null)) := by
  have single := enriched.find?_or (quiet .example)
  have named := enriched.find?_or (quiet .examples)
  have kept : (Json.find? Which.example.key entries).isSome = true →
      (Json.find? Which.example.key entries').isSome = true := enriched.isSome_find?
  generalize Json.find? Which.example.key entries = example?,
    Json.find? Which.example.key entries' = example?' at own single kept
  generalize Json.find? Which.examples.key entries = examples?,
    Json.find? Which.examples.key entries' = examples?' at own named
  refine ⟨fun value held null => ?_, fun missing present => ?_⟩
  · obtain ⟨written, rfl, rfl⟩ := Option.map_eq_some_iff.1 held
    rcases single with same | ⟨_, ⟨⟩, allowed⟩
    · rcases named with rfl | ⟨other, rfl, allowed⟩
      · exact own.single _ (by rw [← same]; rfl) null
      · exact absurd (ofJson_eq_null.1 null) (legible.named allowed.of_examples)
    · exact Literal.answered_encode (legible.examples allowed.of_examples)
  · rcases named with rfl | ⟨other, rfl, allowed⟩
    · cases example? with
      | none => exact own.named rfl present
      | some value =>
          obtain ⟨value', held⟩ := Option.isSome_iff_exists.1 (kept rfl)
          cases held.symm.trans (Option.map_eq_none_iff.1 missing)
    · exact Literal.answered_encode (legible.examples allowed.of_examples)

/-- A node that can be annotated still can be once it was enriched from a legible offer. -/
theorem follows_annotationsFor (enriched : old.Enriched offer part new) (legible : offer.Legible)
    (quiet : ∀ which : Which, (part.child which.key).quiet = true) :
    Run.Follows (fun _ _ => True) (annotationsFor old name) (annotationsFor new name) := by
  unfold annotationsFor
  obtain ⟨entries, entries', rfl, rfl, own⟩ | ⟨items, items', rfl, rfl, -⟩ | ⟨-, rfl⟩ :=
    enriched.cases
  · exact follows_annotateBoth (annotated_enriched own legible quiet)
  · exact .read rfl nofun
  · exact .read rfl fun _ _ => .read rfl fun _ _ => follows_annotateBoth id

end

end Example

end TypedContract
