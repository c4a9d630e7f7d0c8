/-
# TypedContract.Proofs.Schema.Reworded -- schemas up to descriptions

An enriched component schema parses when the schema before did, and the two agree but for
the descriptions of themselves and of their properties: nothing else was written that a
parse looks at.  `Schema.RewordedBy` says so of two schemas, with a relation for their
properties; `Restated` schemas have the same properties, `Reworded` ones restated ones.
-/
import TypedContract.Proofs.Contract.Reading
import TypedContract.Proofs.Schema.Nesting

namespace TypedContract

set_option autoImplicit false

open Contract (Part)

namespace Schema

/-! ## Schemas that differ in descriptions -/

/-- The facts differ in the description, and in the value they were read from. -/
structure Facts.Reworded (facts facts' : Facts) : Prop where
  same : facts' = { facts with node := facts'.node, description := facts'.description }
  place : facts'.node.place = facts.node.place
  description : facts.description.Reworded facts'.description

/-- The schemas differ in their descriptions and, in the given way, in their properties. -/
structure RewordedBy (inner : Schema → Schema → Prop) (schema schema' : Schema) : Prop where
  facts : schema.facts.Reworded schema'.facts
  items : schema'.items = schema.items
  properties : List.Forall₂ (fun property property' => property'.1 = property.1 ∧
    inner property.2 property'.2) schema.properties schema'.properties
  additional : schema'.additional = schema.additional
  members : schema'.members = schema.members

/-- The schemas differ in their own descriptions. -/
abbrev Restated : Schema → Schema → Prop := RewordedBy Eq

/-- The schemas differ in their own descriptions and in those of their properties. -/
abbrev Reworded : Schema → Schema → Prop := RewordedBy Restated

variable {schema schema' : Schema} {facts facts' : Facts}

theorem Facts.Reworded.refl (facts : Facts) : facts.Reworded facts := ⟨rfl, rfl, .inl rfl⟩

theorem RewordedBy.refl {inner : Schema → Schema → Prop} (same : ∀ schema, inner schema schema)
    (schema : Schema) : RewordedBy inner schema schema :=
  ⟨.refl _, rfl, List.forall₂_same.2 fun property _ => ⟨rfl, same property.2⟩, rfl, rfl⟩

theorem Restated.refl (schema : Schema) : Restated schema schema := RewordedBy.refl (fun _ => rfl) schema

theorem Reworded.refl (schema : Schema) : Reworded schema schema := RewordedBy.refl Restated.refl schema

theorem RewordedBy.mono {inner further : Schema → Schema → Prop}
    (reworded : RewordedBy inner schema schema')
    (weaker : ∀ {schema schema'}, inner schema schema' → further schema schema') :
    RewordedBy further schema schema' :=
  ⟨reworded.facts, reworded.items,
    reworded.properties.imp fun _ _ related => ⟨related.1, weaker related.2⟩,
    reworded.additional, reworded.members⟩

theorem Restated.reworded (restated : Restated schema schema') : Reworded schema schema' :=
  restated.mono fun same => same ▸ Restated.refl _

/-! ## What descriptions leave alone -/

theorem Facts.Reworded.kind (reworded : facts.Reworded facts') : facts'.kind = facts.kind := by
  rw [reworded.same]

theorem Facts.Reworded.nullable (reworded : facts.Reworded facts') :
    facts'.nullable = facts.nullable := by
  rw [reworded.same]

theorem RewordedBy.isEmpty_properties {inner : Schema → Schema → Prop}
    (reworded : RewordedBy inner schema schema') :
    schema'.properties.isEmpty = schema.properties.isEmpty := by
  have length := reworded.properties.length_eq
  cases first : schema.properties <;> cases second : schema'.properties <;>
    rw [first, second] at length <;> first | rfl | cases length

theorem RewordedBy.isNote {inner : Schema → Schema → Prop}
    (reworded : RewordedBy inner schema schema') : schema'.isNote = schema.isNote := by
  unfold Schema.isNote Schema.kind
  rw [reworded.facts.same]

/-! ## Parsing -/

section

variable {offer : Offer} {contract : Json} {part : Part} {old new : Node}
  {entries entries' : List (String × Json)} {bound bound' : Nat}

/-- The keywords of a schema that a parse looks at, its description apart. -/
def keywords : List String :=
  ["$ref", "oneOf", "anyOf", "allOf", "type", "properties", "additionalProperties", "items",
    "required", "format", "default", "nullable", "enum", "title", "readOnly"]

theorem unwritten_keyword (part : Part) {name : String} (keyword : name ∈ keywords) :
    part.writes name = false := by
  have apart : keywords.all fun name => !Part.written.contains name := by decide
  exact part.writes_of_not_mem fun written => by
    simpa [written] using List.all_eq_true.1 apart name keyword

/-- The properties of a part parse when they did before. -/
theorem exists_properties_enriched {inner : Schema → Schema → Prop}
    {properties : List (String × Schema)}
    (counterpart : Node.Counterpart offer contract part old new)
    (plain : (part.child "properties").plain = true)
    (each : ∀ {name : String} {property property' : Node} {sub : Schema},
      Node.Counterpart offer contract ((part.child "properties").child name) property property' →
      parseWithin bound property = .ok sub → property'.value.depth < bound' →
      ∃ sub', parseWithin bound' property' = .ok sub' ∧ inner sub sub')
    (deep : new.value.depth ≤ bound')
    (parsed : ∃ held walked, old.member "properties" = .ok held ∧
      (held.orElse (.object [])).entries = .ok walked ∧
      List.Forall₂ (fun entry property => entry.1 = property.1 ∧
        parseWithin bound entry.2 = .ok property.2) walked properties) :
    ∃ properties' : List (String × Schema), (∃ held walked, new.member "properties" = .ok held ∧
        (held.orElse (.object [])).entries = .ok walked ∧
        List.Forall₂ (fun entry property => entry.1 = property.1 ∧
          parseWithin bound' entry.2 = .ok property.2) walked properties') ∧
      List.Forall₂ (fun property property' => property'.1 = property.1 ∧
        inner property.2 property'.2) properties properties' := by
  obtain ⟨held, walked, found, entries, before⟩ := parsed
  obtain ⟨held', found', own⟩ :=
    (counterpart.member (unwritten_keyword part (by decide))).exists_right found
  obtain ⟨walked', entries', children⟩ :=
    ((own.orElse plain rfl).entries plain).exists_right entries
  have deeper {property : String × Node} (among : property ∈ walked') :
      property.2.value.depth < bound' :=
    Nat.lt_of_lt_of_le (inside_property found' entries' among).depth_lt deep
  obtain ⟨properties', after, related⟩ :
      ∃ properties' : List (String × Schema), List.Forall₂ (fun entry property =>
          entry.1 = property.1 ∧ parseWithin bound' entry.2 = .ok property.2) walked' properties' ∧
        List.Forall₂ (fun property property' => property'.1 = property.1 ∧
          inner property.2 property'.2) properties properties' := by
    refine exists_forall₂_of_both children before
      fun {entry entry' property} among counterparts parsed => ?_
    obtain ⟨sub', after, related⟩ := each counterparts.2 parsed.2 (deeper among)
    exact ⟨(entry'.1, sub'), ⟨rfl, after⟩, counterparts.1.trans parsed.1, related⟩
  exact ⟨properties', ⟨held', walked', found', entries', after⟩, related⟩

variable (legible : offer.Legible)
  (still : ∀ name, name ≠ "properties" → (part.child name).quiet = true)

include still

theorem find?_keyword (own : Json.EnrichedEntries offer part entries entries entries') {name : String}
    (keyword : name ∈ keywords) (apart : name ≠ "properties") :
    Json.find? name entries' = Json.find? name entries :=
  own.find?_of_quiet (unwritten_keyword part keyword) (still name apart)

theorem kindOf_enriched (own : Json.EnrichedEntries offer part entries entries entries') :
    kindOf entries' = kindOf entries := by
  have same {name : String} (keyword : name ∈ keywords) (apart : name ≠ "properties") :
      Json.find? name entries' = Json.find? name entries := find?_keyword still own keyword apart
  have properties : (Json.find? "properties" entries').isSome =
      (Json.find? "properties" entries).isSome := by
    have related := own.find? (unwritten_keyword part (by decide : "properties" ∈ keywords))
    generalize Json.find? "properties" entries = found,
      Json.find? "properties" entries' = found' at related
    cases related <;> rfl
  unfold kindOf
  simp (disch := decide) only [same, properties]

include legible

theorem exists_factsOf_enriched (own : Json.EnrichedEntries offer part entries entries entries')
    (place : new.place = old.place) (made : factsOf old entries = .ok facts) :
    ∃ facts', factsOf new entries' = .ok facts' ∧ facts.Reworded facts' := by
  have same {name : String} (keyword : name ∈ keywords) (apart : name ≠ "properties") :
      Json.find? name entries' = Json.find? name entries := find?_keyword still own keyword apart
  have description := (own.reworded_description legible (still "description" (by decide))).orElse
  unfold factsOf at made ⊢
  simp only [except_bind_eq_ok, except_pure_eq_ok] at made
  obtain ⟨declared, isDeclared, required, listed, keys, each, rfl⟩ := made
  simp (disch := decide) only [kindOf_enriched still own, same]
  refine ⟨_, except_bind_eq_ok.2 ⟨declared, isDeclared, except_bind_eq_ok.2 ⟨required, listed,
    except_bind_eq_ok.2 ⟨keys, each, rfl⟩⟩⟩, ⟨rfl, place, description⟩⟩

/-- A part parses when it did before, if its properties do. -/
theorem exists_parseWithin_enriched {inner : Schema → Schema → Prop}
    (counterpart : Node.Counterpart offer contract part old new)
    (plain : (part.child "properties").plain = true)
    (each : ∀ {name : String} {property property' : Node} {sub : Schema} {bound bound' : Nat},
      Node.Counterpart offer contract ((part.child "properties").child name) property property' →
      parseWithin bound property = .ok sub → property'.value.depth < bound' →
      ∃ sub', parseWithin bound' property' = .ok sub' ∧ inner sub sub')
    (same : ∀ schema, inner schema schema)
    (parsed : parseWithin bound old = .ok schema) (deep : new.value.depth < bound') :
    ∃ schema', parseWithin bound' new = .ok schema' ∧ RewordedBy inner schema schema' := by
  -- neither bound is used up: under one a schema was parsed, and the other lies above a depth
  obtain ⟨bound', rfl⟩ : ∃ n, bound' = n + 1 := ⟨bound' - 1, by omega⟩
  obtain ⟨bound, rfl⟩ : ∃ n, bound = n + 1 := by
    cases bound with
    | zero => cases parsed
    | succ n => exact ⟨n, rfl⟩
  rcases parseWithin_cases parsed with ⟨null, facts, made, rfl⟩ | ⟨entries, object, inside⟩
  · have null' : new.value = .null := by
      have whole := counterpart.value
      rw [null] at whole
      exact whole.eq_of_leaf rfl
    exact ⟨_, parseWithin_null null' made, .refl same _⟩
  · have whole := counterpart.value
    rw [object] at whole
    obtain ⟨entries', object', own⟩ := Json.enriched_object.1 whole
    have unwritten {name : String} (keyword : name ∈ keywords) := unwritten_keyword part keyword
    rcases inside with ⟨reference, made, shape⟩ | ⟨apart, parsed⟩
    · obtain ⟨facts', made', reworded⟩ :=
        exists_factsOf_enriched legible still own counterpart.place made
      refine ⟨_, parseWithin_reference object' made' (reworded.kind.trans reference), ?_⟩
      rw [shape]
      exact ⟨reworded, rfl, .nil, rfl, rfl⟩
    · obtain ⟨facts', made', reworded⟩ :=
        exists_factsOf_enriched legible still own counterpart.place parsed.facts
      -- only the properties are written into; what stands under other keywords is as before
      have member {name : String} (keyword : name ∈ keywords) (apart : name ≠ "properties") :
          new.member name = old.member name :=
        counterpart.member_eq (unwritten keyword) (still name apart)
      have items : new.find? "items" entries' = old.find? "items" entries :=
        counterpart.find?_eq (unwritten (by decide)) (still _ (by decide)) object object'
      have combined : memberNodes facts'.kind new = memberNodes schema.facts.kind old := by
        unfold memberNodes
        rw [reworded.kind, member (by decide) (by decide), member (by decide) (by decide),
          member (by decide) (by decide)]
      obtain ⟨properties', parsed', related⟩ := exists_properties_enriched counterpart plain each
        (Nat.le_of_lt_succ deep) parsed.properties
      have again : ParsedBy (parseWithin bound') new entries'
          (.mk facts' schema.items properties' schema.additional schema.members) :=
        parsed.transport object' (fun text own => value_ne_str own text)
          (fun less own => parseWithin_of_depth_lt own
            (Nat.lt_of_lt_of_le less (Nat.le_of_lt_succ deep)))
          made' combined items (member (by decide) (by decide))
          parsed'
      exact ⟨_, again.parseWithin_eq object' (reworded.kind ▸ apart),
        ⟨reworded, rfl, related, rfl, rfl⟩⟩

end

/-- A direct property of a component schema parses when it did before. -/
theorem exists_parseWithin_property {offer : Offer} {contract : Json} {old new : Node}
    {bound bound' : Nat} (counterpart : Node.Counterpart offer contract .property old new)
    (legible : offer.Legible) (parsed : parseWithin bound old = .ok schema)
    (deep : new.value.depth < bound') :
    ∃ schema', parseWithin bound' new = .ok schema' ∧ Restated schema schema' := by
  refine exists_parseWithin_enriched legible (fun _ _ => rfl) counterpart rfl ?_ (fun _ => rfl)
    parsed deep
  intro name property property' sub bound bound' inner own less
  obtain rfl := inner.eq_of_quiet rfl
  exact ⟨sub, parseWithin_of_depth_lt own less, rfl⟩

/-- A component schema parses when it did before. -/
theorem exists_parse_enriched {offer : Offer} {contract : Json} {old new : Node}
    (counterpart : Node.Counterpart offer contract .schema old new) (legible : offer.Legible)
    (parsed : parse old = .ok schema) :
    ∃ schema', parse new = .ok schema' ∧ Reworded schema schema' := by
  have still (name : String) (apart : name ≠ "properties") :
      (Part.schema.child name).quiet = true := by
    unfold Part.child
    split <;> first | rfl | contradiction
  exact exists_parseWithin_enriched legible still counterpart rfl
    (fun inner own less => exists_parseWithin_property inner legible own less) Restated.refl parsed
    (Nat.lt_succ_self _)

end Schema

end TypedContract
