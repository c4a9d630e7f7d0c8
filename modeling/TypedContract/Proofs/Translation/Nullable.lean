/-
# TypedContract.Proofs.Translation.Nullable -- null is not lost

A schema accepts `null` when it is nullable, or when what it refers to or combines does; a
type admits nothing when it is, lists or leads to the type of nothing, or is unknown.
Both are least readings, so neither a schema nor a type has `null` only because it leads
back to itself.

`null` is one of the values of a schema (`AcceptsNull.accepts`), and a type that has it
admits nothing (`Accepts.admitsNil`); no value of a schema is lost, hence no `null`
(`translateNode_admitsNil`).  Members of an `allOf` that merge are the exception: their
record does not admit nothing (`translateNode_merges_null`).
-/
import TypedContract.Proofs.Translation.Faithful

namespace TypedContract

set_option autoImplicit false

open Translation

/-! ## Readings of null -/

/-- The schema has `null` by itself, through what it refers to or through what it
combines; an `allOf` that `merges` holds of has it only by itself. -/
inductive Schema.AcceptsNull (schemas : Node) (merges : Schema → Prop) : Schema → Prop where
  | nullable {schema : Schema} (isNullable : schema.facts.nullable = true) :
      AcceptsNull schemas merges schema
  | reference {schema component : Schema} {name : String}
      (kind : schema.facts.kind = .reference)
      (leads : target? schemas schema.facts = .ok (some name))
      (parsed : componentSchema schemas name = .ok component)
      (accepts : AcceptsNull schemas merges component) : AcceptsNull schemas merges schema
  | union {schema member : Schema} (kind : schema.facts.kind = .union)
      (among : member ∈ schema.members) (accepts : AcceptsNull schemas merges member) :
      AcceptsNull schemas merges schema
  | allOf {schema : Schema} (kind : schema.facts.kind = .allOf)
      (typed : ∃ member ∈ schema.members, member.isNote = false)
      (every : ∀ member ∈ schema.members, member.isNote = false →
        AcceptsNull schemas merges member)
      (kept : ¬ merges schema) : AcceptsNull schemas merges schema

/-- The type is that of nothing or unknown, lists such a type or leads to one. -/
inductive Ty.AdmitsNil (registry : Registry) : Ty → Prop where
  | nil {type : Ty} (isNil : type.isNil = true) : AdmitsNil registry type
  | unknown {reason : String} : AdmitsNil registry (.unknown reason)
  | union {name : Option String} {members : List Ty} {member : Ty} (among : member ∈ members)
      (admits : AdmitsNil registry member) : AdmitsNil registry (.union name members)
  | reference {name : String} {type : Ty} (registered : registry.get? name = some type)
      (admits : AdmitsNil registry type) : AdmitsNil registry (.reference name)

/-- A schema that is only a note has every value. -/
theorem Schema.kind_of_isNote {schema : Schema} (note : schema.isNote = true) :
    schema.facts.kind = .any := by
  unfold Schema.isNote at note
  rw [Bool.and_eq_true] at note
  exact eq_of_beq note.1

/-- What accepts `null` in this reading has it among its values. -/
theorem Schema.AcceptsNull.accepts {schemas : Node} {merges : Schema → Prop} {schema : Schema}
    (null : schema.AcceptsNull schemas merges) : schema.Accepts schemas merges .null := by
  induction null with
  | nullable isNullable => exact .null isNullable
  | reference kind leads parsed _ ih => exact .reference kind leads parsed ih
  | union kind among _ ih => exact .union kind among ih
  | @allOf schema kind typed every kept ih =>
      refine .allOf kind (fun member among => ?_) fun _ => kept
      cases note : member.isNote with
      | true => exact .any (Schema.kind_of_isNote note)
      | false => exact ih member among note

/-- A primitive with `null` among its values is that of nothing. -/
theorem Primitive.scalar_of_admits_null {primitive : Primitive}
    (admitted : primitive.admits .null = true) : primitive.scalar = .nil := by
  simp only [Primitive.admits, Bool.and_eq_true] at admitted
  have kind := admitted.1.1
  cases scalar : primitive.scalar with
  | nil => rfl
  | _ =>
      rw [scalar] at kind
      cases kind

/-- What has `null` among its values admits nothing. -/
theorem Ty.Accepts.admitsNil {registry : Registry} {type : Ty} {value : Json}
    (accepted : type.Accepts registry value) (null : value = .null) : type.AdmitsNil registry := by
  induction accepted with
  | primitive admitted =>
      subst null
      refine .nil ?_
      rw [Ty.isNil, Primitive.scalar_of_admits_null admitted]
      rfl
  | array | map | record => cases null
  | union among _ ih => exact .union among (ih null)
  | reference registered _ ih => exact .reference registered (ih null)
  | unknown => exact .unknown

/-! ## Translations -/

namespace Translator

variable {number : Nat} {contract : Json} {translator : Translator}

/-- The type of a schema that accepts `null` admits nothing, however the schema comes to
accept it.  An `allOf` whose members merge accepts it only by itself. -/
theorem translateNode_admitsNil {s t : Session} {node : Node} {context : String} {schema : Schema}
    {type : Ty} (stands : SessionOf number contract translator s)
    (part : node.Stands number contract) (parsed : Schema.parse node = .ok schema)
    (returned : Run.Returns (translator.translateNode node context) s type t)
    (null : schema.AcceptsNull translator.schemas (Merges translator.schemas)) :
    type.AdmitsNil t.registry := by
  have ended : Ended translator.schemas number contract t :=
    (SessionOf.translated stands part returned).ended
  obtain ⟨same, found, derived⟩ := derives_translateNode stands.sound returned
  cases parsed.symm.trans found
  have kept := kept_of_accepts ended null.accepts ⟨node, part, .of_parse parsed⟩
  have accepted : type.Accepts t.registry .null := kept.accepts derived (.refl t)
  exact accepted.admitsNil rfl

/-- A choice between a record that may be nothing and a text. -/
def choiceContract : Json :=
  .object [("components", .object [("schemas", .object [
    ("Choice", .object [("oneOf", .list [pairReference, .object [("type", .str "string")]])]),
    ("Pair", pair)])])]

/-- The component schemas of that document. -/
def choiceSchemas : Node :=
  ⟨.object [
    ("Choice", .object [("oneOf", .list [pairReference, .object [("type", .str "string")]])]),
    ("Pair", pair)], some ⟨0, [0, 0]⟩⟩

/-- A reference to that choice. -/
def choiceReference : Json := .object [("$ref", .str "#/components/schemas/Choice")]

theorem translateNode_admitsNil_choice : ∃ translator s t schema type,
    SessionOf 0 choiceContract translator s ∧ (Node.free choiceReference).Stands 0 choiceContract ∧
    Schema.parse (.free choiceReference) = .ok schema ∧
    Run.Returns (translator.translateNode (.free choiceReference) "") s type t ∧
    schema.AcceptsNull translator.schemas (Merges translator.schemas) ∧
    type.AdmitsNil t.registry := by
  have ok : ((translateAfterComponents choiceContract (.free choiceReference)).passes {}
      fun _ _ => true) = true := by decide +kernel
  obtain ⟨⟨translator, type⟩, t, returned⟩ := Run.exists_returns ok
  obtain ⟨s, stands, schemas, translated⟩ := sessionOf_translateAfterComponents returned
  have same : choiceSchemas = translator.schemas :=
    Except.ok.inj (Eq.trans
      (show .ok choiceSchemas = Contract.schemas (.root 0 choiceContract) from rfl) schemas)
  obtain ⟨schema, parsed, kind, leads⟩ : ∃ schema,
      Schema.parse (.free choiceReference) = .ok schema ∧ schema.facts.kind = .reference ∧
      target? choiceSchemas schema.facts = .ok (some "Choice") := ⟨_, rfl, rfl, rfl⟩
  obtain ⟨choice, member, others, found, union, members, refers, leadsOn⟩ :
      ∃ choice member others, componentSchema choiceSchemas "Choice" = .ok choice ∧
        choice.facts.kind = .union ∧ choice.members = member :: others ∧
        member.facts.kind = .reference ∧
        target? choiceSchemas member.facts = .ok (some "Pair") :=
    ⟨_, _, _, rfl, rfl, rfl, rfl, rfl⟩
  obtain ⟨record, here, nullable⟩ : ∃ record,
      componentSchema choiceSchemas "Pair" = .ok record ∧ record.facts.nullable = true :=
    ⟨_, rfl, rfl⟩
  have memberNull : member.AcceptsNull choiceSchemas (Merges choiceSchemas) :=
    .reference refers leadsOn here (.nullable nullable)
  have null : schema.AcceptsNull choiceSchemas (Merges choiceSchemas) :=
    .reference kind leads found (.union union (members ▸ List.mem_cons_self) memberNull)
  rw [same] at null
  exact ⟨translator, s, t, schema, type, stands, Node.stands_free, parsed, translated, null,
    translateNode_admitsNil stands Node.stands_free parsed translated null⟩

/-- An `allOf` of one inline record that may be nothing. -/
def mergedPair : Json := .object [("allOf", .list [pair])]

/-- The only member of an `allOf` may be nothing, and the record it merges into may not. -/
theorem translateNode_merges_null : ∃ translator s t schema type,
    SessionOf 0 (.object []) translator s ∧ (Node.free mergedPair).Stands 0 (.object []) ∧
    Schema.parse (.free mergedPair) = .ok schema ∧
    Run.Returns (translator.translateNode (.free mergedPair) "") s type t ∧
    schema.AcceptsNull translator.schemas (fun _ => False) ∧ ¬ type.AdmitsNil t.registry := by
  have ok : ((translateAfterComponents (.object []) (.free mergedPair)).passes {}
      fun found _ => found.2.isRecord) = true := by decide +kernel
  obtain ⟨⟨translator, type⟩, t, returned, record⟩ := Run.exists_returns_of ok
  obtain ⟨s, stands, -, translated⟩ := sessionOf_translateAfterComponents returned
  obtain ⟨schema, member, parsed, kind, members, noNote, nullable⟩ : ∃ schema member,
      Schema.parse (.free mergedPair) = .ok schema ∧ schema.facts.kind = .allOf ∧
      schema.members = [member] ∧ member.isNote = false ∧ member.facts.nullable = true :=
    ⟨_, _, rfl, rfl, rfl, rfl, rfl⟩
  have null : schema.AcceptsNull translator.schemas (fun _ => False) := by
    refine .allOf kind ⟨member, by rw [members]; exact List.mem_cons_self, noNote⟩ ?_ id
    intro other among _
    rw [members] at among
    obtain rfl := List.mem_singleton.1 among
    exact .nullable nullable
  refine ⟨translator, s, t, schema, type, stands, Node.stands_free, parsed, translated, null, ?_⟩
  intro admits
  cases admits with
  | nil isNil =>
      cases type with
      | record => cases isNil
      | _ => cases record
  | _ => cases record

end Translator

end TypedContract
