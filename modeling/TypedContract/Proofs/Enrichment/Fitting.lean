/-
# TypedContract.Proofs.Enrichment.Fitting -- what an enrichment asks of a schema

Enrichment reads a contract part by part and faults where a part has a kind that it cannot
work with, or where a symbol says something that it cannot use.  The examples of a symbol
are `WritableOnto` a target when none of them stops the decoder and the target accepts what
there is to write.  `FitsType` says what is asked of a component schema: that it is an
object whose name can be looked up and, if there is a symbol for it, that the properties of
the symbol's fields can be written to.  Properties that no field asks for may be anything.

There is one lemma for each step of the enrichment, in its order, with the condition under
which the step comes back (`Edit.Succeeds`).
-/
import TypedContract.Proofs.Enrichment.Completing
import TypedContract.Proofs.Enrichment.Finding
import TypedContract.Proofs.Literal.Settling

namespace TypedContract

set_option autoImplicit false

open Contract (Part Shared)

/-! ## Reading -/

/-- An answer is found and passes, or the question has one and each answer found passes. -/
theorem exists_ok_forall_iff {α : Type} {reading : Except Fault (Option α)} {passes : α → Prop} :
    (∃ found, reading = .ok found ∧ ∀ a, found = some a → passes a) ↔
      (∃ found, reading = .ok found) ∧ ∀ a, reading = .ok (some a) → passes a := by
  constructor
  · rintro ⟨found, read, each⟩
    refine ⟨⟨found, read⟩, fun a same => each a ?_⟩
    exact Except.ok.inj (read.symm.trans same)
  · rintro ⟨⟨found, read⟩, each⟩
    exact ⟨found, read, fun a same => each a (same ▸ read)⟩

namespace Node

variable {node : Node} {entries : List (String × Json)} {name : String}

theorem member_of_object (object : node.value = .object entries) :
    node.member name = .ok (node.under name) := by
  unfold Node.member Node.member? Node.under
  rw [object]
  rfl

theorem isObject_of_member {found : Node} (held : node.member name = .ok found) :
    node.value.IsObject := by
  unfold Node.member Node.member? at held
  cases object : node.value with
  | object entries => exact ⟨entries, rfl⟩
  | _ => rw [object] at held; cases held

theorem required_of_object (object : node.value = .object entries)
    (present : (Json.find? name entries).isSome = true) :
    node.required name = .ok (node.under name) := by
  obtain ⟨value, found⟩ := Option.isSome_iff_exists.1 present
  obtain ⟨held, here, -⟩ := Node.exists_find? node found
  unfold Node.required Node.under
  rw [object]
  simp only [here, Option.getD_some]

@[simp] theorem value_under : (node.under name).value = node.value.under name := by
  unfold Node.under Json.under Json.held
  cases object : node.value with
  | object entries =>
      dsimp only
      cases found : Json.find? name entries with
      | none =>
          rw [Node.find?, Json.position?_eq_none found]
          rfl
      | some value =>
          obtain ⟨held, here, rfl⟩ := Node.exists_find? node found
          rw [here]
          rfl
  | _ => rfl

end Node

namespace Json

variable {value : Json} {entries : List (String × Json)} {name : String}

theorem member_of_object (object : value = .object entries) :
    value.member name = .ok (value.under name) := by
  subst object
  rfl

theorem exists_key_iff : (∃ key, value.key = .ok key) ↔ value.isKey = true := by
  unfold Json.key
  split <;> simp_all

end Json

/-! ## Examples of a symbol -/

namespace Example

/-- The examples can be written onto a target: each is decoded or refused as malformed, and the
target accepts what there is.  Examples in conflict are not written. -/
def WritableOnto (annotations : List Annotation) (accepts : Prop) : Prop :=
  inConflict annotations = false → ∀ which,
    Literal.Answered (annotated? annotations which) ∧
      ∀ value, annotated? annotations which = .ok (some value) → accepts

end Example

namespace Enrichment

open Edit (Mirrors Succeeds)

variable {offer : Offer} {contract : Json}

/-! ## Mappers -/

section

variable {mapper : ExampleMapper} {accepts : Prop}

theorem succeeds_start : Succeeds offer contract True mapper.start := by
  unfold ExampleMapper.start
  split
  · exact .report
  · exact .pure

theorem succeeds_set {which : Example.Which}
    (written : ∀ value, Example.annotated? mapper.annotations which = .ok (some value) →
      Succeeds offer contract accepts (mapper.write which value)) :
    Succeeds offer contract (Example.inConflict mapper.annotations = false →
      Literal.Answered (Example.annotated? mapper.annotations which) ∧
        ∀ value, Example.annotated? mapper.annotations which = .ok (some value) → accepts)
      (mapper.set which) := by
  unfold ExampleMapper.set ExampleMapper.isDisabled
  split
  · next conflict =>
      exact Succeeds.pure.iff
        ⟨fun _ apart => absurd (conflict.symm.trans apart) nofun, fun _ => trivial⟩
  · next apart =>
      rw [Bool.not_eq_true] at apart
      split
      · next found =>
          refine Succeeds.pure.iff ⟨fun _ _ => ?_, fun _ => trivial⟩
          rw [found]
          exact ⟨.ok, nofun⟩
      · next value found =>
          refine (written value found).iff
            ⟨fun accepted _ => ?_, fun holds => (holds apart).2 value found⟩
          exact ⟨found ▸ .ok, fun _ _ => accepted⟩
      · next why found =>
          refine Succeeds.report.iff ⟨fun _ _ => ?_, fun _ => trivial⟩
          rw [found]
          exact ⟨.malformed, nofun⟩
      · next fault unrefused found =>
          refine Succeeds.throw.iff ⟨nofun, fun holds => ?_⟩
          obtain ⟨why, rfl⟩ := Literal.Answered.error_iff.1 (found ▸ (holds apart).1)
          exact unrefused why rfl

theorem succeeds_apply
    (written : ∀ which value, Example.annotated? mapper.annotations which = .ok (some value) →
      Succeeds offer contract accepts (mapper.write which value)) :
    Succeeds offer contract (Example.WritableOnto mapper.annotations accepts) mapper.apply := by
  refine ((succeeds_set (written .example)).seq fun _ => succeeds_set (written .examples)).iff ?_
  constructor
  · rintro ⟨one, many⟩ apart which
    match which with
    | .example => exact one apart
    | .examples => exact many apart
  · exact fun holds => ⟨fun apart => holds apart .example, fun apart => holds apart .examples⟩

theorem succeeds_run {symbol : Symbol} {target : ExampleTarget}
    (written : ∀ which value, Example.annotated? symbol.annotations which = .ok (some value) →
      Succeeds offer contract accepts ((ExampleMapper.ofSymbol symbol target).write which value)) :
    Succeeds offer contract (Example.WritableOnto symbol.annotations accepts)
      (ExampleMapper.ofSymbol symbol target).run :=
  (succeeds_start.seq fun _ => succeeds_apply written).iff (and_iff_right trivial)

end

/-! ## Media types -/

/-- The media types of a request body; none without content or when there is not exactly
one. -/
def mediaTypesOf (body : Node) : Except Fault (List Node) := do
  let content ← (body.orElse (.object [])).member "content"
  if content.value.isNull then return []
  if (← content.value.size) != 1 then return []
  return (← content.entries).map (·.2)

/-- The media types of the body can be listed and are objects. -/
def AcceptsExamples (body : Node) : Prop :=
  ∃ medias, mediaTypesOf body = .ok medias ∧ ∀ media ∈ medias, media.value.IsObject

section

variable {part : Part} {origin node : Node} {mapper : ExampleMapper}

theorem mirrors_mediaTypes (kind : part = .use .body ∨ part = .entry .body)
    (counterpart : Node.Counterpart offer contract part origin node) :
    Mirrors offer contract (mediaTypesOf origin)
      (List.Forall₂ (Node.Counterpart offer contract .media)) (mapper.mediaTypes node) := by
  have plain : part.plain = true := by rcases kind with rfl | rfl <;> rfl
  have content : part.child "content" = .content := by rcases kind with rfl | rfl <;> rfl
  unfold ExampleMapper.mediaTypes mediaTypesOf
  refine .next (.refresh counterpart) fun body counterpart => ?_
  refine .bind (.ask ((counterpart.orElse plain rfl).member (Part.writes_of_plain plain _)))
    fun held found _ own => ?_
  rw [content] at own
  rw [own.isNull]
  split
  · exact .pure .nil
  · refine .bind (.read (own.value_size rfl)) fun size _ _ same => ?_
    subst same
    split
    · exact .next Succeeds.report.mirrors fun _ _ => .pure .nil
    · refine .bind (.ask (own.entries rfl)) fun entries entries' _ both => .pure ?_
      rw [List.forall₂_map_left_iff, List.forall₂_map_right_iff]
      exact both.imp fun _ _ related => related.2

/-- Onto a node examples are written if it was an object. -/
theorem succeeds_write_node {word : String} {which : Example.Which} {value : Json}
    (target : mapper.target = .node word node)
    (counterpart : Node.Counterpart offer contract part origin node)
    (takes : ∀ entries, origin.value = .object entries → Offer.TakesExamples part entries)
    (offered : offer.examples which value) :
    Succeeds offer contract origin.value.IsObject (mapper.write which value) := by
  unfold ExampleMapper.write
  rw [target]
  exact .assign counterpart takes offered

theorem succeeds_write_body {which : Example.Which} {value : Json}
    (target : mapper.target = .request (some node)) (kind : part = .use .body ∨ part = .entry .body)
    (counterpart : Node.Counterpart offer contract part origin node)
    (offered : offer.examples which value) :
    Succeeds offer contract (AcceptsExamples origin) (mapper.write which value) := by
  unfold ExampleMapper.write
  rw [target]
  refine .after (mirrors_mediaTypes kind counterpart) fun medias nodes _ both => ?_
  exact .forM both fun _ _ _ own => .assign own (fun _ _ => ⟨rfl, nofun⟩) offered

theorem succeeds_write_nowhere {which : Example.Which} {value : Json}
    (target : mapper.target = .request none) :
    Succeeds offer contract True (mapper.write which value) := by
  unfold ExampleMapper.write
  rw [target]
  exact .pure

end

/-! ## Types -/

/-- The symbol of the type that a component schema stands for. -/
def typeOf (symbols : SymbolModel) (key : String) (schema : Node) :
    Except Fault (Option Symbol) := do
  symbols.typeNamed? (← sourceName key schema)

/-- The property of a field, unless it is missing or `null`. -/
def fieldTarget (properties : Node) (entry : String × Symbol) :
    Except Fault (List (Symbol × Node)) := do
  let property ← properties.member entry.1
  return if property.value.isNull then [] else [(entry.2, property)]

/-- What the examples of a type ask of its schema. -/
structure FitsExamples (symbol : Symbol) (schema : Json) : Prop where
  own : Example.WritableOnto symbol.annotations True
  properties : symbol.fields ≠ [] → (schema.under "properties").truthy = true →
    (schema.under "properties").IsObject
  fields : ∀ entry ∈ symbol.fields, ((schema.under "properties").under entry.1).isNull = false →
    Example.WritableOnto entry.2.annotations ((schema.under "properties").under entry.1).IsObject

/-- What the descriptions of a type ask of its schema: a documented field that is a property
is an object. -/
def FitsDescriptions (symbol : Symbol) (schema : Json) : Prop :=
  ∀ entry ∈ symbol.fields, (Json.find? entry.1 (schema.under "properties").held).isSome = true →
    entry.2.facts.documentation.truthy = true → ((schema.under "properties").under entry.1).IsObject

/-- What is asked of a component schema. -/
structure FitsType (symbols : SymbolModel) (key : String) (schema : Node) : Prop where
  object : schema.value.IsObject
  name : (schema.value.under typeExtension).isKey = true
  examples : ∀ symbol, typeOf symbols key schema = .ok (some symbol) →
    FitsExamples symbol schema.value
  descriptions : ∀ symbol, typeOf symbols key schema = .ok (some symbol) →
    FitsDescriptions symbol schema.value

section

variable {model : SymbolModel} {key : String} {origin node schema : Node}

theorem exists_typeOf_iff : (∃ found, typeOf model key schema = .ok found) ↔
    schema.value.IsObject ∧ (schema.value.under typeExtension).isKey = true := by
  have named {name : Json} : (∃ found, model.typeNamed? name = .ok found) ↔ name.isKey = true := by
    rw [← Json.exists_key_iff]
    constructor
    · rintro ⟨found, read⟩
      obtain ⟨key, isKey, -⟩ := except_bind_eq_ok.1 read
      exact ⟨key, isKey⟩
    · rintro ⟨key, isKey⟩
      unfold SymbolModel.typeNamed?
      rw [isKey, except_ok_bind]
      split <;> exact ⟨_, rfl⟩
  unfold typeOf sourceName
  cases object : schema.value with
  | object entries =>
      change (∃ found, model.typeNamed? ((Json.find? typeExtension entries).getD (.str key)) =
        .ok found) ↔ _
      rw [named, and_iff_right ⟨entries, rfl⟩]
      change _ ↔ ((Json.find? typeExtension entries).getD .null).isKey = true
      cases Json.find? typeExtension entries <;> exact Iff.rfl
  | _ => exact iff_of_false (fun ⟨_, read⟩ => nomatch read) fun ⟨⟨_, isObject⟩, _⟩ => nomatch isObject

theorem object_of_typeOf {found : Option Symbol} (read : typeOf model key schema = .ok found) :
    schema.value.IsObject := (exists_typeOf_iff.1 ⟨found, read⟩).1

/-- A mapper aims at the property of a field. -/
def AimsAt (offer : Offer) (contract : Json) (target : Symbol × Node) (mapper : ExampleMapper) :
    Prop :=
  ∃ node, mapper.target = .node "field" node ∧ mapper.annotations = target.1.annotations ∧
    Node.Counterpart offer contract .property target.2 node

theorem mirrors_fieldMappers {typeName : Json} {fields : List (String × Symbol)}
    (counterpart : Node.Counterpart offer contract .properties origin node) :
    Mirrors offer contract (collect (fieldTarget origin) fields)
      (List.Forall₂ (AimsAt offer contract)) (fieldMappers typeName node fields) := by
  induction fields with
  | nil => exact .pure .nil
  | cons entry rest ih =>
      obtain ⟨field, symbol⟩ := entry
      unfold fieldMappers
      rw [collect]
      unfold fieldTarget
      simp only [bind_assoc]
      refine .bind (.ask (counterpart.member rfl)) fun held found _ own => ?_
      rw [own.isNull]
      simp only [pure_bind]
      split
      · simp only [List.nil_append, bind_pure]
        exact .next Succeeds.note.mirrors fun _ _ => ih
      · refine .next succeeds_start.mirrors fun _ _ => ?_
        exact .bind ih fun targets mappers _ related => .pure (.cons ⟨found, rfl, rfl, own⟩ related)

/-- What counts as absent has no entries. -/
theorem held_orElse {node : Node} : (node.orElse (.object [])).value.held = node.value.held := by
  unfold Node.orElse
  split
  · rfl
  · next falsy =>
      cases object : node.value with
      | object entries =>
          rw [object] at falsy
          cases entries with
          | nil => rfl
          | cons entry rest => exact absurd rfl falsy
      | _ => rfl

theorem under_orElse {node : Node} {name : String} :
    (node.orElse (.object [])).value.under name = node.value.under name := by
  rw [Json.under, held_orElse, Json.under]

theorem isObject_orElse_iff {node : Node} : (node.orElse (.object [])).value.IsObject ↔
    (node.value.truthy = true → node.value.IsObject) := by
  unfold Node.orElse
  split
  · next counts => exact ⟨fun object _ => object, fun object => object counts⟩
  · next falsy => exact iff_of_true ⟨[], rfl⟩ fun counts => absurd counts falsy

/-- The properties of fields are found in objects. -/
theorem exists_fieldTargets_iff {properties : Node} {fields : List (String × Symbol)}
    (some : fields ≠ []) :
    (∃ targets, collect (fieldTarget properties) fields = .ok targets ∧ ∀ target ∈ targets,
        Example.WritableOnto target.1.annotations target.2.value.IsObject) ↔
      properties.value.IsObject ∧ ∀ entry ∈ fields,
        (properties.value.under entry.1).isNull = false →
          Example.WritableOnto entry.2.annotations (properties.value.under entry.1).IsObject := by
  constructor
  · rintro ⟨targets, collected, each⟩
    have object : properties.value.IsObject := by
      obtain ⟨entry, rest, rfl⟩ := List.exists_cons_of_ne_nil some
      obtain ⟨own, read, -⟩ := exists_of_collect collected List.mem_cons_self
      obtain ⟨property, held, -⟩ := except_bind_eq_ok.1 read
      exact Node.isObject_of_member held
    refine ⟨object, fun entry member present => ?_⟩
    obtain ⟨entries, object⟩ := object
    obtain ⟨own, read, within⟩ := exists_of_collect collected member
    rw [fieldTarget, Node.member_of_object object, except_ok_bind, Node.value_under, present] at read
    obtain rfl := except_pure_eq_ok.1 read
    have written := each _ (within List.mem_cons_self)
    rwa [Node.value_under] at written
  · rintro ⟨⟨entries, object⟩, each⟩
    have read (entry : String × Symbol) : fieldTarget properties entry =
        .ok (if (properties.value.under entry.1).isNull then [] else
          [(entry.2, properties.under entry.1)]) := by
      rw [fieldTarget, Node.member_of_object object, except_ok_bind, Node.value_under]
      rfl
    obtain ⟨targets, collected⟩ := exists_collect fun entry (_ : entry ∈ fields) => ⟨_, read entry⟩
    refine ⟨targets, collected, fun target inside => ?_⟩
    obtain ⟨entry, member, own, found, given⟩ := mem_collect collected inside
    obtain rfl := Except.ok.inj ((read entry).symm.trans found)
    split at given
    · cases given
    · next present =>
        rw [Bool.not_eq_true] at present
        rw [List.mem_singleton.1 given, Node.value_under]
        exact each entry member present

/-- A target belongs to one of the fields. -/
theorem exists_field_of_mem_targets {properties : Node} {fields : List (String × Symbol)}
    {targets : List (Symbol × Node)} (read : collect (fieldTarget properties) fields = .ok targets)
    {target : Symbol × Node} (inside : target ∈ targets) : ∃ entry ∈ fields, entry.2 = target.1 := by
  obtain ⟨entry, member, given, found, inside⟩ := mem_collect read inside
  refine ⟨entry, member, ?_⟩
  obtain ⟨held, -, found⟩ := except_bind_eq_ok.1 found
  obtain rfl := except_pure_eq_ok.1 found
  split at inside
  · cases inside
  · rw [List.mem_singleton.1 inside]

theorem succeeds_applyField {target : Symbol × Node} {mapper : ExampleMapper}
    (member : target.1 ∈ model.symbols) (aims : AimsAt model.offer contract target mapper) :
    Succeeds model.offer contract
      (Example.WritableOnto target.1.annotations target.2.value.IsObject) mapper.apply := by
  obtain ⟨property, aimed, annotated, own⟩ := aims
  have takes (entries : List (String × Json)) (_ : target.2.value = .object entries) :
      Offer.TakesExamples .property entries :=
    ⟨rfl, fun parameter => absurd parameter Bool.false_ne_true⟩
  rw [← annotated]
  exact succeeds_apply fun which value found => succeeds_write_node aimed own takes
    ⟨target.1, member, annotated ▸ found⟩

theorem succeeds_fieldExamples {typeName : Json} {fields : List (String × Symbol)}
    {entries : List (String × Json)} (members : ∀ field ∈ fields, field.2 ∈ model.symbols)
    (object : origin.value = .object entries)
    (counterpart : Node.Counterpart model.offer contract .schema origin node) :
    Succeeds model.offer contract
      ((fields ≠ [] → (origin.value.under "properties").truthy = true →
          (origin.value.under "properties").IsObject) ∧
        ∀ entry ∈ fields, ((origin.value.under "properties").under entry.1).isNull = false →
          Example.WritableOnto entry.2.annotations
            ((origin.value.under "properties").under entry.1).IsObject)
      (do
        if !fields.isEmpty && (← Edit.lift (node.value.holds "properties")) then
          let properties := (← Edit.lift (node.member "properties")).orElse (.object [])
          (← fieldMappers typeName properties fields).forM ExampleMapper.apply) := by
  refine .given (.read (counterpart.holds rfl)) (Json.holds_of_object object) fun present same => ?_
  subst same
  split
  · next both =>
      rw [Bool.and_eq_true, Bool.not_eq_true', List.isEmpty_eq_false_iff] at both
      refine .given (.ask (counterpart.member rfl)) (Node.member_of_object object) fun found own => ?_
      refine (Succeeds.after (mirrors_fieldMappers (own.orElse rfl rfl))
        fun targets mappers read both => .forM both fun target mapper inside aims => ?_).iff
          ((exists_fieldTargets_iff both.1).trans ?_)
      · obtain ⟨entry, member, same⟩ := exists_field_of_mem_targets read inside
        exact succeeds_applyField (same ▸ members entry member) aims
      · simp only [isObject_orElse_iff, under_orElse, Node.value_under]
        exact and_congr_left fun _ => ⟨fun object _ => object, fun object => object both.1⟩
  · next neither =>
      refine Succeeds.pure.iff ⟨fun _ => ?_, fun _ => trivial⟩
      rw [Bool.and_eq_true, not_and_or, Bool.not_eq_true, Bool.not_eq_false', List.isEmpty_iff,
        Option.not_isSome_iff_eq_none] at neither
      rcases neither with rfl | missing
      · exact ⟨fun some => absurd rfl some, List.forall_mem_nil _⟩
      · have absent : origin.value.under "properties" = .null := by rw [Json.under, missing]; rfl
        rw [absent]
        exact ⟨fun _ counts => absurd counts Bool.false_ne_true,
          fun _ _ present => absurd present Bool.true_eq_false.mp⟩

theorem succeeds_typeExamples
    (counterpart : Node.Counterpart model.offer contract .schema origin node) :
    Succeeds model.offer contract (∃ found, typeOf model key origin = .ok found ∧
        ∀ symbol, found = some symbol → FitsExamples symbol origin.value)
      (typeExamples model key node) := by
  unfold typeExamples
  refine .given (.refresh counterpart) rfl fun schema counterpart => ?_
  refine Succeeds.iff (?_ : Succeeds _ _ (∃ typeName, sourceName key origin = .ok typeName ∧
    ∃ found, model.typeNamed? typeName = .ok found ∧
      ∀ symbol, found = some symbol → FitsExamples symbol origin.value) _) ?_
  · refine .after (.read (sourceName_eq counterpart)) fun typeName _ named same => ?_
    subst same
    refine .after (.read rfl) fun found _ answered same => ?_
    subst same
    obtain ⟨entries, object⟩ := object_of_typeOf (except_bind_eq_ok.2 ⟨_, named, answered⟩)
    cases found with
    | none => exact Succeeds.pure.iff ⟨fun _ => nofun, fun _ => trivial⟩
    | some symbol =>
        have member : symbol ∈ model.symbols := SymbolModel.mem_symbols_of_typeNamed? answered
        have fields : ∀ field ∈ symbol.fields, field.2 ∈ model.symbols :=
          fun field => SymbolModel.mem_symbols_of_field answered
        have accepts : origin.value.IsObject ↔ True := iff_true_intro ⟨entries, object⟩
        have own : Succeeds model.offer contract (Example.WritableOnto symbol.annotations True)
            (ExampleMapper.ofSymbol symbol (.node "type" schema)).run :=
          succeeds_run fun which value found => (succeeds_write_node rfl counterpart
            (fun _ _ => ⟨rfl, nofun⟩) ⟨symbol, member, found⟩).iff accepts
        refine (own.seq fun _ => .given (.refresh counterpart) rfl fun schema counterpart =>
          succeeds_fieldExamples fields object counterpart).iff ⟨?_, ?_⟩
        · rintro ⟨own, properties, fields⟩ _ ⟨⟩
          exact ⟨own, properties, fields⟩
        · intro fits
          have fits := fits symbol rfl
          exact ⟨fits.own, fits.properties, fits.fields⟩
  · unfold typeOf
    simp only [except_bind_eq_ok]
    constructor
    · rintro ⟨typeName, named, found, answered, fits⟩
      exact ⟨found, ⟨typeName, named, answered⟩, fits⟩
    · rintro ⟨found, ⟨typeName, named, answered⟩, fits⟩
      exact ⟨typeName, named, found, answered, fits⟩

/-- A documented field that is a property has to be an object. -/
theorem succeeds_fieldDescription {field : String} {documentation : Json}
    (object : origin.value.IsObject)
    (offered : documentation.truthy = true → offer.descriptions documentation)
    (counterpart : Node.Counterpart offer contract .properties origin node) :
    Succeeds offer contract
      ((Json.find? field origin.value.held).isSome = true → documentation.truthy = true →
        (origin.value.under field).IsObject)
      (do if ← Edit.lift (node.value.holds field) then
        describe (← Edit.lift (node.required field)) documentation) := by
  obtain ⟨entries, object⟩ := object
  refine .given (.read (counterpart.holds rfl)) (Json.holds_of_object object) fun present same => ?_
  subst same
  split
  · next present =>
      have found := present
      rw [object] at found
      refine .given (.ask (counterpart.required rfl)) (Node.required_of_object object found)
        fun property own => ?_
      refine (Succeeds.describe rfl own offered).iff ?_
      rw [Node.value_under]
      exact ⟨fun object _ => object, fun object => object present⟩
  · next absent =>
      exact Succeeds.pure.iff ⟨fun _ present => absurd present absent, fun _ => trivial⟩

/-- Once the examples are written, descriptions only ask for the documented properties. -/
theorem succeeds_typeDescriptions
    (prepared : ∀ symbol, typeOf model key origin = .ok (some symbol) →
      FitsExamples symbol origin.value)
    (counterpart : Node.Counterpart model.offer contract .schema origin node) :
    Succeeds model.offer contract (∃ found, typeOf model key origin = .ok found ∧
        ∀ symbol, found = some symbol → FitsDescriptions symbol origin.value)
      (typeDescriptions model key node) := by
  unfold typeDescriptions
  refine .given (.refresh counterpart) rfl fun schema counterpart => ?_
  have same : (do model.typeNamed? (← sourceName key schema)) = typeOf model key origin := by
    rw [sourceName_eq counterpart]
    rfl
  refine .after (.read same) fun found _ answered equal => ?_
  subst equal
  cases found with
  | none =>
      refine Succeeds.pure.iff ⟨fun _ symbol none => ?_, fun _ => trivial⟩
      cases none
  | some symbol =>
      obtain ⟨entries, object⟩ := object_of_typeOf answered
      obtain ⟨typeName, -, named⟩ := except_bind_eq_ok.1 answered
      have described := Succeeds.describe rfl counterpart
        (offered_documentation (SymbolModel.mem_symbols_of_typeNamed? named))
      have fields : Succeeds model.offer contract (FitsDescriptions symbol origin.value) (do
          let schema ← Edit.refresh schema
          let properties := (← Edit.lift (schema.member "properties")).orElse (.object [])
          symbol.fields.forM fun entry => do
            if ← Edit.lift (properties.value.holds entry.1) then
              describe (← Edit.lift (properties.required entry.1)) entry.2.facts.documentation) := by
        refine .given (.refresh counterpart) rfl fun schema counterpart => ?_
        refine .given (.ask (counterpart.member rfl)) (Node.member_of_object object)
          fun found own => ?_
        refine .forM_same fun entry member => ?_
        have isObject : ((origin.under "properties").orElse (.object [])).value.IsObject := by
          rw [isObject_orElse_iff, Node.value_under]
          exact (prepared symbol answered).properties (List.ne_nil_of_mem member)
        have documented := offered_documentation (SymbolModel.mem_symbols_of_field named member)
        have property := @succeeds_fieldDescription _ _ _ _ entry.1 _ isObject documented
          (own.orElse rfl rfl)
        rwa [held_orElse, under_orElse, Node.value_under] at property
      refine ((described.iff (iff_true_intro fun _ => ⟨entries, object⟩)).seq fun _ => fields).iff ?_
      constructor
      · rintro ⟨-, fits⟩ found same
        exact Option.some.inj same ▸ fits
      · exact fun fits => ⟨trivial, fits symbol rfl⟩

end

end Enrichment

end TypedContract
