/-
# TypedContract.Proofs.Contract.Reading -- what a reader finds in an enriched contract

Under the key of an example or a description a reader finds what stood there or what
the offer allowed to be written (`EnrichedEntries.find?_or`), and never less than before
(`EnrichedEntries.isSome_find?`).  Under a key whose part is quiet it finds the same, at
the same place (`Counterpart.member_eq`).

An offer is `Legible` when whoever reads what was written from it can go on: descriptions
are texts, examples keep to the limit of digits, and named examples are not `null`.
-/
import TypedContract.Literal.Json
import TypedContract.Proofs.Contract.Counterpart

namespace TypedContract

set_option autoImplicit false

open Contract (Part Shared)

/-- Descriptions are texts, examples hold no integer with too many digits, and named examples
are there. -/
structure Offer.Legible (offer : Offer) : Prop where
  descriptions : ∀ {text : Json}, offer.descriptions text → ∃ words, text = .str words
  examples : ∀ {which : Example.Which} {value : Json}, offer.examples which value →
    (Literal.ofJson value).isWithinDigits = true
  named : ∀ {value : Json}, offer.examples .examples value → value ≠ .null

theorem Offer.Allows.of_description {offer : Offer} {part : Part}
    {entries : List (String × Json)} {value : Json}
    (allowed : offer.Allows part entries "description" value) : offer.descriptions value := by
  generalize named : "description" = name at allowed
  cases allowed with
  | @examples which => cases which <;> exact absurd named (by decide)
  | description takes missing offered => exact offered

theorem Offer.Allows.of_examples {offer : Offer} {part : Part} {entries : List (String × Json)}
    {which : Example.Which} {value : Json} (allowed : offer.Allows part entries which.key value) :
    offer.examples which value := by
  generalize named : which.key = name at allowed
  cases allowed with
  | @examples other _ takes offered =>
      cases which <;> cases other <;> first | exact offered | exact absurd named (by decide)
  | description => cases which <;> exact absurd named (by decide)

namespace Json

variable {offer : Offer} {part : Part} {name : String}

/-! ## Descriptions -/

/-- The value is the same as before or now a text. -/
def Reworded (old new : Json) : Prop := new = old ∨ ∃ words, new = .str words

namespace Reworded

variable {old new : Json} (reworded : Reworded old new)

include reworded

/-- No description is an empty one. -/
theorem orElse : Reworded (old.orElse (.str "")) (new.orElse (.str "")) := by
  rcases reworded with rfl | ⟨words, rfl⟩
  · exact .inl rfl
  · refine .inr ?_
    unfold Json.orElse
    split
    · exact ⟨words, rfl⟩
    · exact ⟨"", rfl⟩

theorem exists_text {words : String} (text : old.text = .ok words) :
    ∃ words', new.text = .ok words' := by
  rcases reworded with rfl | ⟨words', rfl⟩
  · exact ⟨words, text⟩
  · exact ⟨words', rfl⟩

end Reworded

/-! ## Under a key that may be written -/

namespace EnrichedEntries

variable {whole old new : List (String × Json)}

theorem find?_or (enriched : EnrichedEntries offer part whole old new)
    (quiet : (part.child name).quiet = true) :
    Json.find? name new = Json.find? name old ∨
      ∃ value, Json.find? name new = some value ∧ offer.Allows part whole name value := by
  induction old generalizing new with
  | nil =>
      rw [EnrichedEntries] at enriched
      cases found : Json.find? name new with
      | none => exact .inl rfl
      | some value => exact .inr ⟨value, rfl, (enriched.2 _ (mem_of_find? found)).2⟩
  | cons entry rest ih =>
      obtain ⟨value', rest', rfl, here, more⟩ := enriched.exists_cons
      unfold Json.find?
      split
      · rename_i same
        obtain rfl := eq_of_beq same
        rcases here with inside | allowed
        · exact .inl (congrArg some (inside.eq_of_quiet quiet))
        · exact .inr ⟨value', rfl, allowed⟩
      · exact ih more

/-- What was found is still found. -/
theorem isSome_find? (enriched : EnrichedEntries offer part whole old new)
    (found : (Json.find? name old).isSome = true) : (Json.find? name new).isSome = true := by
  induction old generalizing new with
  | nil => cases found
  | cons entry rest ih =>
      obtain ⟨value', rest', rfl, -, more⟩ := enriched.exists_cons
      unfold Json.find? at found ⊢
      split
      · rfl
      · rename_i apart
        rw [if_neg apart] at found
        exact ih more found

theorem reworded_description (enriched : EnrichedEntries offer part whole old new)
    (legible : offer.Legible) (quiet : (part.child "description").quiet = true) :
    Reworded ((Json.find? "description" old).getD .null)
      ((Json.find? "description" new).getD .null) := by
  rcases enriched.find?_or quiet with same | ⟨value, written, allowed⟩
  · exact .inl (congrArg (·.getD .null) same)
  · rw [written]
    exact .inr (legible.descriptions allowed.of_description)

end EnrichedEntries

/-! ## Members of values -/

namespace Enriched

variable {old new : Json}

theorem member (enriched : Enriched offer part old new) (unwritten : part.writes name = false) :
    Agree (Enriched offer (part.child name)) (old.member name) (new.member name) := by
  obtain ⟨entries, entries', rfl, rfl, own⟩ | ⟨items, items', rfl, rfl, -⟩ | ⟨leaf, rfl⟩ :=
    enriched.cases
  · have related := own.find? unwritten
    refine .ok ?_
    generalize Json.find? name entries = found, Json.find? name entries' = found' at related
    cases related with
    | some inside => exact inside
    | none => exact .refl _ _
  · exact .error
  · cases new with
    | object entries => cases leaf
    | _ => exact .error

theorem orElse (enriched : Enriched offer part old new) (plain : part.plain = true)
    {fallback : Json} : Enriched offer part (old.orElse fallback) (new.orElse fallback) := by
  unfold Json.orElse
  rw [enriched.truthy plain]
  split
  · exact enriched
  · exact .refl part fallback

/-- A description is the same or was written. -/
theorem member_description (enriched : Enriched offer part old new) (legible : offer.Legible)
    (quiet : (part.child "description").quiet = true) :
    Agree Reworded (old.member "description") (new.member "description") := by
  obtain ⟨entries, entries', rfl, rfl, own⟩ | ⟨items, items', rfl, rfl, -⟩ | ⟨leaf, rfl⟩ :=
    enriched.cases
  · exact .ok (own.reworded_description legible quiet)
  · exact .error
  · exact (Agree.refl _).mono fun same => .inl same.symm

end Enriched

end Json

namespace Node.Counterpart

variable {offer : Offer} {contract : Json} {part : Part} {old new : Node} {name : String}

/-! ## Under a key whose part is quiet -/

section

variable (counterpart : Counterpart offer contract part old new)
  (unwritten : part.writes name = false) (quiet : (part.child name).quiet = true)

include counterpart unwritten quiet

theorem find?_eq {entries entries' : List (String × Json)} (object : old.value = .object entries)
    (object' : new.value = .object entries') : new.find? name entries' = old.find? name entries := by
  have related := counterpart.find? object object' unwritten
  generalize old.find? name entries = found, new.find? name entries' = found' at related
  cases related with
  | some own => rw [own.eq_of_quiet quiet]
  | none => rfl

theorem member_eq : new.member name = old.member name :=
  ((counterpart.member unwritten).mono fun own => (own.eq_of_quiet quiet).symm).eq

theorem required_eq : new.required name = old.required name :=
  ((counterpart.required unwritten).mono fun own => (own.eq_of_quiet quiet).symm).eq

end

/-- The elements of a plain part whose elements are quiet are the same. -/
theorem value_elements (counterpart : Counterpart offer contract part old new)
    (plain : part.plain = true) (quiet : part.element.quiet = true) :
    new.value.elements = old.value.elements := by
  obtain ⟨entries, entries', object, object', own⟩ | ⟨items, items', list, list', own⟩ | ⟨-, same⟩ :=
    counterpart.value.cases
  · have keys := congrArg (List.map Json.str) (own.keys plain)
    rw [List.map_map, List.map_map] at keys
    rw [object, object']
    exact congrArg Except.ok keys
  · rw [list, list', own.eq_of_quiet quiet]
  · rw [same]

end Node.Counterpart

end TypedContract
