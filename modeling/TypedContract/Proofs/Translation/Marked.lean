/-
# TypedContract.Proofs.Translation.Marked -- schemas that are marked as nullable

Objects that agree but for their mark, the value of `nullable`, have the same children at
the same places (`Node.SameButMark`).  So one parses when the other does, to the same schema but
for the mark itself (`Schema.parse_of_alike`), and its translation is the same program, at
whose end nothing is added to the type (`Translation.translate_remarked`).  A translation
therefore leaves the same session whether or not its schema is marked, and only its type
tells the difference (`Translator.returns_translateNode_marked`).
-/
import TypedContract.Proofs.Contract.Change
import TypedContract.Proofs.Returning
import TypedContract.Proofs.Schema.Nesting
import TypedContract.Translation

namespace TypedContract

set_option autoImplicit false

theorem Json.position?_put_of_ne {name other : String} {new : Json}
    {entries : List (String × Json)} (apart : other ≠ name) :
    position? other (put name new entries) = position? other entries := by
  induction entries with
  | nil => exact if_neg fun same => apart (eq_of_beq same).symm
  | cons entry rest ih =>
      unfold put
      split
      · rename_i same
        rfl
      · unfold position?
        rw [ih]

/-! ## Objects that agree but for their mark -/

namespace Node

variable {node node' : Node} {entries entries' : List (String × Json)} {name : String}

/-- The object says that its value may be nothing. -/
def isNullable (node : Node) : Bool :=
  match node.value with
  | .object entries => ((Json.find? "nullable" entries).getD .null).truthy
  | _ => false

/-- The objects stand at the same place and hold the same at the same positions, but for
the mark. -/
structure SameButMark (node node' : Node) : Prop where
  place : node'.place = node.place
  objects : ∃ entries entries', node.value = .object entries ∧ node'.value = .object entries' ∧
    ∀ name, name ≠ "nullable" → Json.find? name entries' = Json.find? name entries ∧
      Json.position? name entries' = Json.position? name entries

namespace SameButMark

theorem symm (alike : node.SameButMark node') : node'.SameButMark node := by
  obtain ⟨entries, entries', object, object', same⟩ := alike.objects
  exact ⟨alike.place.symm, entries', entries, object', object,
    fun name apart => ⟨(same name apart).1.symm, (same name apart).2.symm⟩⟩

/-- Writing the mark leaves an object alike. -/
theorem put (object : node.value = .object entries) (flag : Json) :
    node.SameButMark { node with value := .object (Json.put "nullable" flag entries) } :=
  ⟨rfl, entries, _, object, rfl,
    fun _ apart => ⟨Json.find?_put_of_ne apart, Json.position?_put_of_ne apart⟩⟩

theorem json (alike : node.SameButMark node') (object : node.value = .object entries)
    (object' : node'.value = .object entries') (apart : name ≠ "nullable") :
    Json.find? name entries' = Json.find? name entries := by
  obtain ⟨_, _, own, own', same⟩ := alike.objects
  cases object.symm.trans own
  cases object'.symm.trans own'
  exact (same name apart).1

theorem find? (alike : node.SameButMark node') (object : node.value = .object entries)
    (object' : node'.value = .object entries') (apart : name ≠ "nullable") :
    node'.find? name entries' = node.find? name entries := by
  obtain ⟨_, _, own, own', same⟩ := alike.objects
  cases object.symm.trans own
  cases object'.symm.trans own'
  obtain ⟨found, position⟩ := same name apart
  unfold Node.find? Node.child
  rw [found, position, alike.place]

theorem member (alike : node.SameButMark node') (apart : name ≠ "nullable") :
    node'.member name = node.member name := by
  obtain ⟨entries, entries', object, object', -⟩ := alike.objects
  unfold Node.member member?
  rw [object, object']
  exact congrArg (fun found : Option Node => Except.ok (found.getD (free .null)))
    (alike.find? object object' apart)

theorem value_member (alike : node.SameButMark node') (apart : name ≠ "nullable") :
    node'.value.member name = node.value.member name := by
  obtain ⟨entries, entries', object, object', -⟩ := alike.objects
  rw [object, object']
  exact congrArg (fun found : Option Json => Except.ok (found.getD .null))
    (alike.json object object' apart)

end SameButMark

/-- The second object is the first one, marked as nullable. -/
structure Marks (bare marked : Node) : Prop where
  alike : bare.SameButMark marked
  off : bare.isNullable = false
  on : marked.isNullable = true

/-- A true mark marks an object that was not marked. -/
theorem Marks.put {flag : Json} (object : node.value = .object entries)
    (off : node.isNullable = false) (on : flag.truthy = true) :
    node.Marks { node with value := .object (Json.put "nullable" flag entries) } :=
  ⟨.put object flag, off, by
    change ((Json.find? "nullable" (Json.put "nullable" flag entries)).getD .null).truthy = true
    rwa [Json.find?_put]⟩

end Node

/-! ## Parsing -/

namespace Schema

variable {node node' bare marked : Node} {schema schema' : Schema}

/-- The schema with another mark, read from another node. -/
def remarked (schema : Schema) (node : Node) (nullable : Bool) : Schema :=
  .mk { schema.facts with node := node, nullable := nullable } schema.items schema.properties
    schema.additional schema.members

theorem kindOf_alike {entries entries' : List (String × Json)} (alike : node.SameButMark node')
    (object : node.value = .object entries) (object' : node'.value = .object entries') :
    kindOf entries' = kindOf entries := by
  have same {name : String} (apart : name ≠ "nullable") :
      Json.find? name entries' = Json.find? name entries := alike.json object object' apart
  unfold kindOf
  simp (disch := decide) only [same]

theorem factsOf_alike {entries entries' : List (String × Json)} {facts : Facts}
    (alike : node.SameButMark node') (object : node.value = .object entries)
    (object' : node'.value = .object entries') (made : factsOf node entries = .ok facts) :
    factsOf node' entries' = .ok { facts with node := node', nullable := node'.isNullable } := by
  have same {name : String} (apart : name ≠ "nullable") :
      Json.find? name entries' = Json.find? name entries := alike.json object object' apart
  have flag : node'.isNullable = ((Json.find? "nullable" entries').getD .null).truthy := by
    rw [Node.isNullable, object']
  unfold factsOf at made ⊢
  simp only [except_bind_eq_ok, except_pure_eq_ok] at made
  obtain ⟨declared, isDeclared, required, listed, keys, each, rfl⟩ := made
  simp (disch := decide) only [kindOf_alike alike object object', same, flag]
  exact except_bind_eq_ok.2 ⟨declared, isDeclared, except_bind_eq_ok.2 ⟨required, listed,
    except_bind_eq_ok.2 ⟨keys, each, rfl⟩⟩⟩

/-- Objects that agree but for their mark have schemas that do. -/
theorem parse_of_alike (alike : node.SameButMark node') (parsed : parse node = .ok schema) :
    parse node' = .ok (schema.remarked node' node'.isNullable) := by
  obtain ⟨entries, entries', object, object', -⟩ := alike.objects
  rcases parseWithin_cases parsed with ⟨null, -⟩ | ⟨_, own, inside⟩
  · cases null.symm.trans object
  · cases object.symm.trans own
    rcases inside with ⟨reference, made, shape⟩ | ⟨apart, parsed⟩
    · rw [shape]
      exact parseWithin_reference object' (factsOf_alike alike object object' made) reference
    · have made := factsOf_alike alike object object' parsed.facts
      have combined : memberNodes schema.facts.kind node' = memberNodes schema.facts.kind node := by
        unfold memberNodes
        rw [alike.member (by decide), alike.member (by decide), alike.member (by decide)]
      obtain ⟨held, inner, found, walked, properties⟩ := parsed.properties
      have found' : node'.member "properties" = .ok held := (alike.member (by decide)).trans found
      have again : ParsedBy (parseWithin node'.value.depth) node' entries'
          (schema.remarked node' node'.isNullable) :=
        parsed.transport object' (fun text own => value_ne_str own text)
          (fun less own => parseWithin_of_depth_lt own less) made combined
          (alike.find? object object' (by decide)) (alike.member (by decide))
          ⟨held, inner, found', walked, forall₂_mono_mem properties fun entry among property own =>
            ⟨own.1, parseWithin_of_depth_lt own.2 (inside_property found' walked among).depth_lt⟩⟩
      exact again.parseWithin_eq object' apart

theorem remarked_remarked (schema : Schema) (node node' : Node) (flag flag' : Bool) :
    (schema.remarked node flag).remarked node' flag' = schema.remarked node' flag' := rfl

/-- What parses is marked as its object is. -/
theorem remarked_of_parse {entries : List (String × Json)} (object : node.value = .object entries)
    (parsed : parse node = .ok schema) : schema.remarked node node.isNullable = schema := by
  have alike : node.SameButMark node :=
    ⟨rfl, entries, entries, object, object, fun _ _ => ⟨rfl, rfl⟩⟩
  exact Except.ok.inj ((parse_of_alike alike parsed).symm.trans parsed)

theorem facts_of_bare (marks : bare.Marks marked) (parsed : parse bare = .ok schema) :
    schema.facts.nullable = false ∧ schema.facts.node.place = marked.place := by
  obtain ⟨entries, entries', object, -, -⟩ := marks.alike.objects
  rw [← remarked_of_parse object parsed, marks.off, marks.alike.place]
  exact ⟨rfl, rfl⟩

/-- A marked object has the schema of the bare one, marked. -/
theorem parse_marked_iff (marks : bare.Marks marked) :
    parse marked = .ok schema' ↔
      ∃ schema, parse bare = .ok schema ∧ schema' = schema.remarked marked true := by
  obtain ⟨entries, entries', object, object', -⟩ := marks.alike.objects
  constructor
  · intro parsed
    refine ⟨_, parse_of_alike marks.alike.symm parsed, ?_⟩
    rw [remarked_remarked, ← marks.on]
    exact (remarked_of_parse object' parsed).symm
  · rintro ⟨schema, parsed, rfl⟩
    rw [parse_of_alike marks.alike parsed, marks.on]

end Schema

/-! ## Translating -/

namespace Translation

/-- A mark changes a translation only at its end. -/
theorem translate_remarked {ties : Ties} {schema : Schema} {context : String} {node : Node}
    (off : schema.facts.nullable = false) (place : schema.facts.node.place = node.place) :
    translate ties (schema.remarked node true) context =
      withNil true <$> translate ties schema context := by
  obtain ⟨⟨kind, origin, ref, format, declared, required, default, nullable, enum, description,
    title, readOnly, flag⟩, items, properties, additional, members⟩ := schema
  obtain rfl : nullable = false := off
  have ends (program : Run Ty) : (do return withNil true (← program)) =
      withNil true <$> (do return withNil false (← program)) := by
    rw [map_eq_pure_bind, bind_assoc]
    simp only [pure_bind]
    rfl
  have place : node.place = origin.place := place.symm
  change translate ties (.mk ⟨kind, node, ref, format, declared, required, default, true, enum,
    description, title, readOnly, flag⟩ items properties additional members) context = _
  unfold translate
  dsimp only
  rw [place]
  -- The kind decides where the program branches; each branch ends in the same way.
  cases kind with
  | array => cases items <;> exact ends _
  | object =>
      dsimp only
      split
      · cases additional <;> exact ends _
      · split <;> exact ends _
  | _ => exact ends _

end Translation

namespace Translator

variable {translator : Translator} {bare marked : Node} {context : String} {s t : Session}
  {type' : Ty}

/-- A marked schema is translated as the bare one is, and its type may be nothing. -/
theorem returns_translateNode_marked (marks : bare.Marks marked) :
    Run.Returns (translator.translateNode marked context) s type' t ↔
      ∃ type, Run.Returns (translator.translateNode bare context) s type t ∧
        type' = Translation.withNil true type := by
  unfold translateNode translate
  simp only [Run.returns_bind, Run.returns_lift]
  constructor
  · rintro ⟨schema', u, ⟨parsed, rfl⟩, returned⟩
    obtain ⟨schema, own, rfl⟩ := (Schema.parse_marked_iff marks).1 parsed
    obtain ⟨off, place⟩ := Schema.facts_of_bare marks own
    rw [Translation.translate_remarked off place] at returned
    obtain ⟨type, translated, rfl⟩ := Run.returns_map.1 returned
    exact ⟨type, ⟨schema, s, ⟨own, rfl⟩, translated⟩, rfl⟩
  · rintro ⟨type, ⟨schema, u, ⟨own, rfl⟩, returned⟩, rfl⟩
    obtain ⟨off, place⟩ := Schema.facts_of_bare marks own
    refine ⟨_, s, ⟨(Schema.parse_marked_iff marks).2 ⟨schema, own, rfl⟩, rfl⟩, ?_⟩
    rw [Translation.translate_remarked off place]
    exact Run.returns_map.2 ⟨type, returned, rfl⟩

end Translator

end TypedContract
