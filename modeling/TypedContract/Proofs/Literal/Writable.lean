/-
# TypedContract.Proofs.Literal.Writable -- the values that have a literal expression

A JSON value can be written when its integers keep to the limit of digits, its doubles are
finite and no object has a key twice.  `Json.Writable` says so, together with how deep the
lists and objects stand in one another.  What is written for such a value is its standard
text (`encodeChars_ofJson`), and as a literal value it is the JSON value it came from
(`toJsonAt_ofJson`).
-/
import TypedContract.Literal.Json

namespace TypedContract

set_option autoImplicit false

/-- The value can be written, and its lists and objects stand in one another at most so
deep. -/
inductive Json.Writable : Nat → Json → Prop where
  | null {depth : Nat} : Writable depth .null
  | bool {depth : Nat} (value : Bool) : Writable depth (.bool value)
  | int {depth : Nat} {value : Int} (fits : Literal.withinDigits value = true) :
      Writable depth (.int value)
  | double {depth : Nat} {value : Double} (finite : value.isFinite = true) :
      Writable depth (.double value)
  | str {depth : Nat} (value : String) : Writable depth (.str value)
  | list {depth : Nat} {items : List Json} (each : ∀ item ∈ items, Writable depth item) :
      Writable (depth + 1) (.list items)
  | object {depth : Nat} {entries : List (String × Json)}
      (distinct : (entries.map Prod.fst).Nodup)
      (each : ∀ entry ∈ entries, Writable depth entry.2) : Writable (depth + 1) (.object entries)

namespace Literal

variable {depth : Nat} {value : Json}

/-! ## Writing -/

theorem encodeChars_int {value : Int} (fits : withinDigits value = true) :
    encodeChars (.int value) = .ok (writtenInt value) := by
  rw [encodeChars]
  generalize withinDigits value = keeps at fits
  subst fits
  rfl

/-- The literal expression of a value is its standard text. -/
theorem encodeChars_ofJson (writable : value.Writable depth) :
    encodeChars (ofJson value) = .ok (ofJson value).written := by
  induction writable with
  | null | bool | str => rfl
  | int fits =>
      rw [ofJson, encodeChars_int fits]
      rfl
  | double finite =>
      rw [ofJson, encodeChars, if_pos finite]
      rfl
  | @list depth items each ih =>
      have texts : encodeItems (ofItems items) = .ok (writtenItems (ofItems items)) := by
        clear each
        induction items with
        | nil => rfl
        | cons item rest inside =>
            rw [ofItems, encodeItems, ih item List.mem_cons_self,
              inside fun other member => ih other (List.mem_cons_of_mem _ member)]
            rfl
      rw [ofJson, encodeChars, texts]
      rfl
  | @object depth entries distinct each ih =>
      have texts : encodeEntries (ofEntries entries) = .ok (writtenEntries (ofEntries entries)) := by
        clear each distinct
        induction entries with
        | nil => rfl
        | cons entry rest inside =>
            obtain ⟨key, value⟩ := entry
            rw [ofEntries, encodeEntries, ih (key, value) List.mem_cons_self,
              inside fun other member => ih other (List.mem_cons_of_mem _ member)]
            rfl
      rw [ofJson, encodeChars, texts]
      rfl

/-! ## Reading -/

/-- A JSON value as a literal value is that JSON value again. -/
theorem toJsonAt_ofJson (writable : value.Writable depth) (path : String) :
    toJsonAt path (ofJson value) = .ok value := by
  induction writable generalizing path with
  | null => rfl
  | bool value => rfl
  | int fits => rfl
  | double finite => rw [ofJson, toJsonAt, if_pos finite]
  | str value => rfl
  | @list depth items each ih =>
      have values : ∀ position, itemsAt path position (ofItems items) = .ok items := by
        clear each
        induction items with
        | nil => exact fun position => rfl
        | cons item rest inside =>
            intro position
            rw [ofItems, itemsAt, ih item List.mem_cons_self,
              inside fun other member => ih other (List.mem_cons_of_mem _ member)]
            rfl
      rw [ofJson, toJsonAt, values]
      rfl
  | @object depth entries distinct each ih =>
      have values : entriesAt path (ofEntries entries) = .ok entries := by
        clear each distinct
        induction entries with
        | nil => rfl
        | cons entry rest inside =>
            obtain ⟨key, value⟩ := entry
            rw [ofEntries, entriesAt, ih (key, value) List.mem_cons_self,
              inside fun other member => ih other (List.mem_cons_of_mem _ member)]
            rfl
      rw [ofJson, toJsonAt, values]
      rfl

end Literal

end TypedContract
