/-
# TypedContract.Proofs.Schema.Acceptance -- the values of a schema

A schema is read over the component schemas of its document: a reference has the
values of the component that it leads to, and every value when it leads nowhere.
The reading is finite, as that of types is.

An `allOf` has the values that all its members have.  Whether it has `null` through
them is a parameter of the reading: for the schemas that `merges` holds of, `null`
is a value only when the schema itself says so.
-/
import TypedContract.Proofs.Translation.Derivation

namespace TypedContract.Schema

set_option autoImplicit false

open Translation

/-! ## Scalar schemas -/

/-- The values of a scalar kind. -/
def Kind.admits : Kind → Json → Bool
  | .string, .str _ => true
  | .integer, .int _ => true
  | .number, .int _ | .number, .double _ => true
  | .boolean, .bool _ => true
  | _, _ => false

namespace Facts

/-- An integer of format `int32` is one of 32 bits. -/
def inFormat (facts : Facts) (value : Json) : Bool :=
  match facts.kind, facts.format, value with
  | .integer, .str "int32", .int n => -2147483648 ≤ n && n ≤ 2147483647
  | _, _, _ => true

/-- The value is a listed one, if values are listed. -/
def lists (facts : Facts) (value : Json) : Bool :=
  match enumValues facts.enum with
  | .ok (some values) => values.any (Json.same value)
  | _ => true

/-- The values of a scalar schema. -/
def admits (facts : Facts) (value : Json) : Bool :=
  facts.kind.admits value && facts.inFormat value && facts.lists value

end Facts

/-! ## Schemas -/

/-- The values of a schema over the component schemas of a document. -/
inductive Accepts (schemas : Node) (merges : Schema → Prop) : Schema → Json → Prop where
  | null {schema : Schema} (nullable : schema.facts.nullable = true) :
      Accepts schemas merges schema .null
  | scalar {schema : Schema} {value : Json} (kind : isScalarKind schema.facts.kind = true)
      (admitted : schema.facts.admits value = true) : Accepts schemas merges schema value
  | array {schema : Schema} {items : List Json} (kind : schema.facts.kind = .array)
      (each : ∀ inner, schema.items = some inner → ∀ item ∈ items,
        Accepts schemas merges inner item) :
      Accepts schemas merges schema (.list items)
  | object {schema : Schema} {entries : List (String × Json)}
      (kind : schema.facts.kind = .object) (properties : schema.properties ≠ [])
      (present : ∀ property ∈ schema.properties,
        schema.facts.required.any (Json.same (.str property.1)) = true →
          (Json.find? property.1 entries).isSome = true)
      (each : ∀ property ∈ schema.properties, ∀ value,
        Json.find? property.1 entries = some value → Accepts schemas merges property.2 value) :
      Accepts schemas merges schema (.object entries)
  | map {schema : Schema} {entries : List (String × Json)}
      (kind : schema.facts.kind = .object) (properties : schema.properties = [])
      (each : ∀ inner, schema.additional = some inner → ∀ entry ∈ entries,
        Accepts schemas merges inner entry.2) :
      Accepts schemas merges schema (.object entries)
  | union {schema member : Schema} {value : Json} (kind : schema.facts.kind = .union)
      (among : member ∈ schema.members) (accepted : Accepts schemas merges member value) :
      Accepts schemas merges schema value
  | allOf {schema : Schema} {value : Json} (kind : schema.facts.kind = .allOf)
      (every : ∀ member ∈ schema.members, Accepts schemas merges member value)
      (kept : value = .null → ¬ merges schema) : Accepts schemas merges schema value
  | reference {schema component : Schema} {name : String} {value : Json}
      (kind : schema.facts.kind = .reference)
      (leads : target? schemas schema.facts = .ok (some name))
      (parsed : componentSchema schemas name = .ok component)
      (accepted : Accepts schemas merges component value) : Accepts schemas merges schema value
  | unresolved {schema : Schema} {value : Json} (kind : schema.facts.kind = .reference)
      (nowhere : target? schemas schema.facts = .ok none) : Accepts schemas merges schema value
  | any {schema : Schema} {value : Json} (kind : schema.facts.kind = .any) :
      Accepts schemas merges schema value

end TypedContract.Schema
