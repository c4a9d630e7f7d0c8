/-
# TypedContract.Proofs.Schema.Parsing -- one schema for each part of a document

The program parses a schema again each time it needs it, to whatever depth the part
at hand has.  `Parsed node schema` forgets the depth: a part has at most one schema
(`Parsed.unique`), and the children of a schema are parsed from parts of that part
(`Parsed.child`).  So the children of schemas of the document are schemas of the
document (`IsPartOf.child`), and the place of an inline schema tells which schema it is
(`IsPartOf.eq_of_place`).
-/
import TypedContract.Schema.Basic
import TypedContract.Proofs.Json.Standing

namespace TypedContract.Schema

set_option autoImplicit false

/-! ## One layer of the parse -/

/-- The children of a schema object are those of its parts, parsed by `child`. -/
structure ParsedBy (child : Node → Except Fault Schema) (node : Node)
    (entries : List (String × Json)) (schema : Schema) : Prop where
  facts : factsOf node entries = .ok schema.facts
  members : ∃ nodes, memberNodes schema.facts.kind node = .ok nodes ∧
    List.Forall₂ (fun inner sub => child inner = .ok sub) nodes schema.members
  items : (node.find? "items" entries = none ∧ schema.items = none) ∨
    ∃ inner sub, node.find? "items" entries = some inner ∧ schema.items = some sub ∧
      child inner = .ok sub
  properties : ∃ held inner, node.member "properties" = .ok held ∧
    (held.orElse (.object [])).entries = .ok inner ∧
    List.Forall₂ (fun entry sub => entry.1 = sub.1 ∧ child entry.2 = .ok sub.2) inner
      schema.properties
  additional : ∃ further, node.member "additionalProperties" = .ok further ∧
    (schema.additional = none ∧ (∀ found, further.value ≠ .object found) ∨
      ∃ sub found, schema.additional = some sub ∧ further.value = .object found ∧
        child further = .ok sub)

/-- The three ways in which a parse ends. -/
theorem parseWithin_cases {bound : Nat} {node : Node} {schema : Schema}
    (parsed : parseWithin (bound + 1) node = .ok schema) :
    (node.value = .null ∧ ∃ facts, factsOf (.free (.object [])) [] = .ok facts ∧
      schema = .mk facts none [] none []) ∨
    ∃ entries, node.value = .object entries ∧
      ((schema.facts.kind = .reference ∧ factsOf node entries = .ok schema.facts ∧
          schema = .mk schema.facts none [] none []) ∨
        (schema.facts.kind ≠ .reference ∧ ParsedBy (parseWithin bound) node entries schema)) := by
  rw [parseWithin] at parsed
  cases value : node.value with
  | null =>
      rw [value] at parsed
      obtain ⟨facts, made, same⟩ := except_bind_eq_ok.1 parsed
      exact .inl ⟨rfl, facts, made, (except_pure_eq_ok.1 same).symm⟩
  | object entries =>
      rw [value] at parsed
      refine .inr ⟨entries, rfl, ?_⟩
      obtain ⟨facts, made, rest⟩ := except_bind_eq_ok.1 parsed
      split at rest
      · rename_i reference
        obtain rfl := except_pure_eq_ok.1 rest
        exact .inl ⟨eq_of_beq reference, made, rfl⟩
      · rename_i apart
        simp only [except_bind_eq_ok, except_pure_eq_ok, mapM_eq_ok_iff,
          option_mapM_eq_ok_iff] at rest
        obtain ⟨nodes, combined, members, parsedMembers, items, parsedItems, held, found, inner,
          walked, properties, parsedProperties, further, more, rest⟩ := rest
        have named : List.Forall₂ (fun entry sub => entry.1 = sub.1 ∧
            parseWithin bound entry.2 = .ok sub.2) inner properties := by
          refine parsedProperties.imp fun entry sub => ?_
          rintro ⟨part, parsed, rfl⟩
          exact ⟨rfl, parsed⟩
        -- the further entries come last and in two forms, so the other keywords are settled first
        have finish : ∀ additional : Option Schema,
            (additional = none ∧ (∀ found, further.value ≠ .object found) ∨
              ∃ sub found, additional = some sub ∧ further.value = .object found ∧
                parseWithin bound further = .ok sub) →
            ParsedBy (parseWithin bound) node entries
              (.mk facts items properties additional members) := fun additional parsedFurther =>
          ⟨made, ⟨nodes, combined, parsedMembers⟩, parsedItems, ⟨held, inner, found, walked, named⟩,
            further, more, parsedFurther⟩
        have apart' : facts.kind ≠ .reference := by simpa using apart
        split at rest
        · rename_i object
          obtain ⟨additional, found, same⟩ := except_bind_eq_ok.1 rest
          obtain rfl := except_pure_eq_ok.1 same
          cases inside : parseWithin bound further with
          | ok sub =>
              rw [inside] at found
              cases found
              exact .inr ⟨apart', finish _ (.inr ⟨sub, _, rfl, object, inside⟩)⟩
          | error fault =>
              rw [inside] at found
              cases found
        · rename_i elsewhere
          obtain ⟨additional, found, same⟩ := except_bind_eq_ok.1 rest
          obtain rfl := except_pure_eq_ok.1 same
          cases except_pure_eq_ok.1 found
          exact .inr ⟨apart', finish _ (.inl ⟨rfl, elsewhere⟩)⟩
  | _ => rw [value] at parsed; cases parsed

/-! ## The schema of a part -/

/-- The part has the schema, to whatever depth it is parsed. -/
def Parsed (node : Node) (schema : Schema) : Prop := ∃ bound, parseWithin bound node = .ok schema

theorem Parsed.of_parse {node : Node} {schema : Schema} (parsed : parse node = .ok schema) :
    Parsed node schema :=
  ⟨_, parsed⟩

theorem ParsedBy.unique {child child' : Node → Except Fault Schema} {node : Node}
    {entries : List (String × Json)} {schema schema' : Schema}
    (first : ParsedBy child node entries schema) (second : ParsedBy child' node entries schema')
    (unique : ∀ {node schema schema'}, child node = .ok schema → child' node = .ok schema' →
      schema = schema') : schema = schema' := by
  obtain ⟨facts, items, properties, additional, members⟩ := schema
  obtain ⟨facts', items', properties', additional', members'⟩ := schema'
  have sameFacts : facts = facts' := Except.ok.inj (first.facts.symm.trans second.facts)
  subst sameFacts
  congr 1
  · rcases first.items with ⟨none, absent⟩ | ⟨inner, sub, found, held, parsed⟩ <;>
      rcases second.items with ⟨none', absent'⟩ | ⟨inner', sub', found', held', parsed'⟩
    · exact absent.trans absent'.symm
    · cases none.symm.trans found'
    · cases none'.symm.trans found
    · cases found.symm.trans found'
      exact held.trans ((congrArg some (unique parsed parsed')).trans held'.symm)
  · obtain ⟨held, inner, found, walked, parsed⟩ := first.properties
    obtain ⟨held', inner', found', walked', parsed'⟩ := second.properties
    cases found.symm.trans found'
    cases walked.symm.trans walked'
    exact forall₂_unique parsed parsed' fun {entry sub sub'} one other =>
      Prod.ext (one.1.symm.trans other.1) (unique one.2 other.2)
  · obtain ⟨further, more, parsed⟩ := first.additional
    obtain ⟨further', more', parsed'⟩ := second.additional
    cases more.symm.trans more'
    rcases parsed with ⟨none, absent⟩ | ⟨sub, found, held, object, inside⟩ <;>
      rcases parsed' with ⟨none', absent'⟩ | ⟨sub', found', held', object', inside'⟩
    · exact none.trans none'.symm
    · exact absurd object' (absent _)
    · exact absurd object (absent' _)
    · exact held.trans ((congrArg some (unique inside inside')).trans held'.symm)
  · obtain ⟨nodes, combined, parsed⟩ := first.members
    obtain ⟨nodes', combined', parsed'⟩ := second.members
    cases combined.symm.trans combined'
    exact forall₂_unique parsed parsed' unique

theorem parseWithin_unique {bound bound' : Nat} {node : Node} {schema schema' : Schema}
    (first : parseWithin bound node = .ok schema)
    (second : parseWithin bound' node = .ok schema') : schema = schema' := by
  induction bound generalizing bound' node schema schema' with
  | zero => cases first
  | succ bound ih =>
      cases bound' with
      | zero => cases second
      | succ bound' =>
          rcases parseWithin_cases first with ⟨null, facts, made, rfl⟩ | ⟨entries, object, first⟩ <;>
            rcases parseWithin_cases second with
              ⟨null', facts', made', rfl⟩ | ⟨entries', object', second⟩
          · cases made.symm.trans made'
            rfl
          · cases null.symm.trans object'
          · cases null'.symm.trans object
          · cases object.symm.trans object'
            rcases first with ⟨reference, made, same⟩ | ⟨apart, parsed⟩ <;>
              rcases second with ⟨reference', made', same'⟩ | ⟨apart', parsed'⟩
            · rw [same, same', Except.ok.inj (made.symm.trans made')]
            · rw [Except.ok.inj (made.symm.trans parsed'.facts)] at reference
              exact absurd reference apart'
            · rw [Except.ok.inj (made'.symm.trans parsed.facts)] at reference'
              exact absurd reference' apart
            · exact parsed.unique parsed' ih

/-- A part has at most one schema. -/
theorem Parsed.unique {node : Node} {schema schema' : Schema} (first : Parsed node schema)
    (second : Parsed node schema') : schema = schema' :=
  parseWithin_unique first.choose_spec second.choose_spec

theorem node_of_factsOf {node : Node} {entries : List (String × Json)} {facts : Facts}
    (made : factsOf node entries = .ok facts) : facts.node = node := by
  unfold factsOf at made
  simp only [except_bind_eq_ok, except_pure_eq_ok] at made
  obtain ⟨declared, -, required, -, keys, -, rfl⟩ := made
  rfl

/-- A schema remembers the part it was parsed from, unless it stands for a missing one. -/
theorem Parsed.node_cases {node : Node} {schema : Schema} (parsed : Parsed node schema) :
    schema.facts.node = node ∨ schema.facts.node.place = none ∧ schema.facts.kind = .any := by
  obtain ⟨bound, parsed⟩ := parsed
  cases bound with
  | zero => cases parsed
  | succ bound =>
      rcases parseWithin_cases parsed with ⟨-, facts, made, rfl⟩ | ⟨entries, -, inside⟩
      · cases made
        exact .inr ⟨rfl, rfl⟩
      · rcases inside with ⟨-, made, -⟩ | ⟨-, parsed⟩
        · exact .inl (node_of_factsOf made)
        · exact .inl (node_of_factsOf parsed.facts)

/-- A schema with a place remembers the part it was parsed from. -/
theorem Parsed.node_eq {node : Node} {schema : Schema} {place : Place}
    (parsed : Parsed node schema) (placed : schema.facts.node.place = some place) :
    schema.facts.node = node :=
  parsed.node_cases.resolve_right fun ⟨nowhere, _⟩ => nomatch placed.symm.trans nowhere

/-- What parses is no text. -/
theorem value_ne_str {bound : Nat} {node : Node} {schema : Schema}
    (parsed : parseWithin bound node = .ok schema) (text : String) : node.value ≠ .str text := by
  intro isText
  cases bound with
  | zero => cases parsed
  | succ bound =>
      rcases parseWithin_cases parsed with ⟨null, -⟩ | ⟨entries, object, -⟩
      · cases null.symm.trans isText
      · cases object.symm.trans isText

/-! ## Children -/

/-- The second schema is a child of the first. -/
inductive Child (schema : Schema) : Schema → Prop where
  | item {item : Schema} (items : schema.items = some item) : Child schema item
  | value {value : Schema} (additional : schema.additional = some value) : Child schema value
  | property {name : String} {property : Schema}
      (member : (name, property) ∈ schema.properties) : Child schema property
  | member {member : Schema} (inside : member ∈ schema.members) : Child schema member

/-- What has children is parsed by parts. -/
theorem Parsed.parts {node : Node} {schema inner : Schema} (parsed : Parsed node schema)
    (child : Child schema inner) : ∃ bound entries, node.value = .object entries ∧
      ParsedBy (parseWithin bound) node entries schema := by
  have childless : ∀ facts, ¬ Child (.mk facts none [] none []) inner := by
    rintro facts (items | additional | member | inside)
    · cases items
    · cases additional
    · cases member
    · cases inside
  obtain ⟨bound, parsed⟩ := parsed
  cases bound with
  | zero => cases parsed
  | succ bound =>
      rcases parseWithin_cases parsed with ⟨-, facts, -, rfl⟩ | ⟨entries, object, inside⟩
      · exact (childless facts child).elim
      · rcases inside with ⟨-, -, same⟩ | ⟨-, parsed⟩
        · exact (childless _ (same ▸ child)).elim
        · exact ⟨bound, entries, object, parsed⟩

/-- A member of a schema that is no text is a part. -/
theorem inside_memberNode {kind : Kind} {node part : Node} {nodes : List Node}
    (walked : memberNodes kind node = .ok nodes) (held : part ∈ nodes)
    (noText : ∀ text, part.value ≠ .str text) : part.Inside node := by
  unfold memberNodes at walked
  split at walked
  · simp only [except_bind_eq_ok] at walked
    obtain ⟨oneOf, found, anyOf, found', walked⟩ := walked
    split at walked
    · exact (Node.inside_element walked held noText).of_member found
    · have within := (Node.inside_element walked held noText).of_orElse fun _ _ => rfl
      exact within.of_member found'
  · obtain ⟨allOf, found, walked⟩ := except_bind_eq_ok.1 walked
    exact (Node.inside_element walked held noText).of_member found
  · cases walked
    cases held

/-- An entry of a member that counts as empty without one is a part. -/
theorem inside_property {node held : Node} {name : String} {entries : List (String × Node)}
    (found : node.member name = .ok held)
    (walked : (held.orElse (.object [])).entries = .ok entries) {entry : String × Node}
    (among : entry ∈ entries) : entry.2.Inside node :=
  ((Node.inside_entry walked among).of_orElse fun _ _ => rfl).of_member found

/-- A child is the schema of a part of the part that the schema was parsed from. -/
theorem Parsed.child {node : Node} {schema inner : Schema} (parsed : Parsed node schema)
    (child : Child schema inner) : ∃ part, part.Inside node ∧ Parsed part inner := by
  obtain ⟨bound, entries, object, parsed⟩ := parsed.parts child
  cases child with
  | item items =>
      rcases parsed.items with ⟨-, none⟩ | ⟨part, sub, found, held, inside⟩
      · cases none.symm.trans items
      · cases held.symm.trans items
        exact ⟨part, Node.inside_find? object found, bound, inside⟩
  | value additional =>
      obtain ⟨further, more, ⟨none, -⟩ | ⟨sub, found, held, isObject, inside⟩⟩ := parsed.additional
      · cases none.symm.trans additional
      · cases held.symm.trans additional
        refine ⟨further, (Node.inside_member more).resolve_left ?_, bound, inside⟩
        rintro rfl
        cases isObject
  | property member =>
      obtain ⟨held, parts, found, walked, parsed⟩ := parsed.properties
      obtain ⟨entry, inside, -, parsedPart⟩ := exists_of_forall₂_right parsed member
      exact ⟨entry.2, inside_property found walked inside, bound, parsedPart⟩
  | member member =>
      obtain ⟨nodes, combined, parsed⟩ := parsed.members
      obtain ⟨part, held, parsedPart⟩ := exists_of_forall₂_right parsed member
      exact ⟨part, inside_memberNode combined held (value_ne_str parsedPart), bound, parsedPart⟩

/-! ## Schemas of a document -/

/-- The schema of a part that stands in the document. -/
def IsPartOf (number : Nat) (contract : Json) (schema : Schema) : Prop :=
  ∃ node, node.Stands number contract ∧ Parsed node schema

namespace IsPartOf

variable {number : Nat} {contract : Json} {schema : Schema}

/-- The place of a schema tells which schema it is. -/
theorem eq_of_place {other : Schema} (stands : schema.IsPartOf number contract)
    (otherStands : other.IsPartOf number contract) {place : Place}
    (placed : schema.facts.node.place = some place)
    (otherPlaced : other.facts.node.place = some place) : schema = other := by
  obtain ⟨node, here, parsed⟩ := stands
  obtain ⟨node', here', parsed'⟩ := otherStands
  have same : schema.facts.node = node := parsed.node_eq placed
  have same' : other.facts.node = node' := parsed'.node_eq otherPlaced
  rw [same] at placed
  rw [same'] at otherPlaced
  obtain ⟨value, place⟩ := node
  obtain ⟨value', place'⟩ := node'
  cases placed
  cases otherPlaced
  have found := (here _ rfl).2.symm.trans (here' _ rfl).2
  cases found
  exact parsed.unique parsed'

/-- The children of a schema of the document are schemas of the document. -/
theorem child (stands : schema.IsPartOf number contract) {inner : Schema}
    (child : Child schema inner) : inner.IsPartOf number contract := by
  obtain ⟨node, here, parsed⟩ := stands
  obtain ⟨part, inside, parsedInner⟩ := parsed.child child
  exact ⟨part, here.of_inside inside, parsedInner⟩

theorem item (stands : schema.IsPartOf number contract) {item : Schema}
    (items : schema.items = some item) : item.IsPartOf number contract :=
  stands.child (.item items)

theorem value (stands : schema.IsPartOf number contract) {value : Schema}
    (additional : schema.additional = some value) : value.IsPartOf number contract :=
  stands.child (.value additional)

theorem property (stands : schema.IsPartOf number contract) {name : String} {property : Schema}
    (member : (name, property) ∈ schema.properties) : property.IsPartOf number contract :=
  stands.child (.property member)

theorem member (stands : schema.IsPartOf number contract) {member : Schema}
    (inside : member ∈ schema.members) : member.IsPartOf number contract :=
  stands.child (.member inside)

end IsPartOf

/-! ## Schemas with a place -/

/-- The schema of a part below the root of the document. -/
def BelowRoot (number : Nat) (contract : Json) (schema : Schema) : Prop :=
  ∃ node, node.Inside (.root number contract) ∧ Parsed node schema

namespace BelowRoot

variable {number : Nat} {contract : Json} {schema : Schema}

theorem child (placed : schema.BelowRoot number contract) {inner : Schema}
    (child : Child schema inner) : inner.BelowRoot number contract := by
  obtain ⟨node, inside, parsed⟩ := placed
  obtain ⟨part, within, parsedInner⟩ := parsed.child child
  exact ⟨part, within.trans inside, parsedInner⟩

/-- What has a place stands there in the document. -/
theorem exists_path (placed : schema.BelowRoot number contract) :
    ∃ path raw, contract.at? path = some raw ∧ Parsed ⟨raw, some ⟨number, path⟩⟩ schema := by
  obtain ⟨⟨raw, place⟩, ⟨path, -, found, rfl⟩, parsed⟩ := placed
  exact ⟨path, raw, found, parsed⟩

end BelowRoot

end TypedContract.Schema
