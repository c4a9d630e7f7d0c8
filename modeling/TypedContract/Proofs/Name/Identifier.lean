/-
# TypedContract.Proofs.Name.Identifier -- identifiers tell canonical names apart

A canonical name has no underscore at either end (`framed_display`).  An identifier adds
one: in front of a leading digit, at the end of a keyword.  So the underscores at its ends
tell what was added, and different canonical names have different identifiers
(`identifier_injective`).  Two names of a contract have one identifier only when they
have one canonical name.
-/
import TypedContract.Name.Snake
import TypedContract.Proofs.Text.Pieces
import Mathlib.Data.List.Nodup

namespace TypedContract.Name

set_option autoImplicit false

variable {name other : String}

/-! ## Canonical names -/

/-- The name has a character, and no underscore at either end. -/
structure Framed (name : String) : Prop where
  first : ∃ c rest, name.toList = c :: rest ∧ c ≠ '_'
  last : ∃ front c, name.toList = front ++ [c] ∧ c ≠ '_'

theorem framed_display (raw : String) : Framed (display raw) := by
  unfold display
  split
  · exact ⟨⟨'p', ['a', 'r', 'a', 'm'], rfl, by decide⟩, ⟨['p', 'a', 'r', 'a'], 'm', rfl, by decide⟩⟩
  · rename_i some_
    have shape := @Text.trimBoth_cases (· == '_') (squeeze
      (((snakeChars raw.toList).map fun c => if isSeparator c then '_' else c).filter isPlain))
    rcases shape with none | ⟨⟨c, rest, first, begins⟩, front, d, last, ends⟩
    · exact absurd none some_
    · refine ⟨⟨c, rest, ?_, by simpa using begins⟩, ⟨front, d, ?_, by simpa using ends⟩⟩
      · rw [String.toList_ofList]
        exact first
      · rw [String.toList_ofList]
        exact last

/-! ## Identifiers -/

/-- A name with an underscore in front is another name with a digit in front. -/
theorem guardDigit_injective (framed : Framed name) (framed' : Framed other)
    (same : guardDigit name = guardDigit other) : name = other := by
  obtain ⟨c, rest, chars, begins⟩ := framed.first
  obtain ⟨d, rest', chars', begins'⟩ := framed'.first
  have texts := congrArg String.toList same
  unfold guardDigit at texts
  simp only [chars, chars'] at texts
  split at texts <;> split at texts
  · simp only [String.toList_append] at texts
    exact String.toList_inj.1 (List.append_cancel_left texts)
  · simp only [String.toList_append, chars, chars'] at texts
    exact absurd (List.cons.inj texts).1.symm begins'
  · simp only [String.toList_append, chars, chars'] at texts
    exact absurd (List.cons.inj texts).1 begins
  · exact String.toList_inj.1 texts

/-- No underscore is added at the end before keywords are looked for. -/
theorem guardDigit_last (framed : Framed name) :
    ∃ front c, (guardDigit name).toList = front ++ [c] ∧ c ≠ '_' := by
  obtain ⟨front, c, chars, ends⟩ := framed.last
  unfold guardDigit
  split
  · split
    · exact ⟨"_".toList ++ front, c, by rw [String.toList_append, chars, List.append_assoc], ends⟩
    · exact ⟨front, c, chars, ends⟩
  · exact ⟨front, c, chars, ends⟩

theorem guardDigit_ne_append (framed : Framed name) : guardDigit name ≠ other ++ "_" := by
  intro same
  obtain ⟨front, c, chars, ends⟩ := guardDigit_last framed
  rw [same, String.toList_append] at chars
  exact ends (List.append_inj_right' chars rfl |> List.cons.inj).1.symm

/-- Different canonical names have different identifiers. -/
theorem identifier_injective (framed : Framed name) (framed' : Framed other)
    (same : identifier name = identifier other) : name = other := by
  refine guardDigit_injective framed framed' ?_
  unfold identifier at same
  dsimp only at same
  split at same <;> split at same
  · exact (String.append_left_inj _).1 same
  · exact absurd same.symm (guardDigit_ne_append framed')
  · exact absurd same (guardDigit_ne_append framed)
  · exact same

/-- Identifiers of names are distinct exactly when the canonical names are. -/
theorem nodup_identifiers_iff {names : List String} :
    (names.map fun name => identifier (display name)).Nodup ↔ (names.map display).Nodup := by
  have twice : names.map (fun name => identifier (display name)) =
      (names.map display).map identifier := by
    simp only [List.map_map, Function.comp_def]
  rw [twice]
  refine ⟨List.Nodup.of_map identifier, fun distinct => ?_⟩
  refine List.Nodup.map_on (fun first member second member' same => ?_) distinct
  obtain ⟨raw, -, rfl⟩ := List.mem_map.1 member
  obtain ⟨raw', -, rfl⟩ := List.mem_map.1 member'
  exact identifier_injective (framed_display raw) (framed_display raw') same

/-- Only the canonical name `self` has the identifier `self`. -/
theorem identifier_eq_self_iff (framed : Framed name) : identifier name = "self" ↔ name = "self" := by
  have self : Framed "self" :=
    ⟨⟨'s', ['e', 'l', 'f'], rfl, by decide⟩, ⟨['s', 'e', 'l'], 'f', rfl, by decide⟩⟩
  have own : identifier "self" = "self" := by decide +kernel
  constructor
  · intro same
    exact identifier_injective framed self (same.trans own.symm)
  · rintro rfl
    exact own

end TypedContract.Name
