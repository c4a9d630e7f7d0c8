/-
# TypedContract.Proofs.Translation.Faithful -- translated types keep the values of schemas

A translator registers the components of its document and then translates schemas of
the document in any order and number.  At each point in between nothing is in progress
and the chronicle is kept (`Translator.SessionOf.ended`), so no translated type loses a
value of its schema (`translateNode_accepts`).

An `allOf` whose members merge is the one place where the reading of schemas gives way:
a record has no `null`, even when all the members have (`translateNode_drops_null`).
-/
import TypedContract.Proofs.Translation.Accepting
import TypedContract.Proofs.Translation.Translator

namespace TypedContract

set_option autoImplicit false

open Translation

variable {number : Nat} {contract : Json} {translator : Translator}

namespace Translation.Ended

variable {schemas : Node} {s : Session}

/-- A translation of schemas of the document that begins at an end comes to an end. -/
theorem derived {judgement : Judgement} (ended : Ended schemas number contract judgement.start)
    (derived : Derives schemas judgement) (stand : judgement.Stand number contract) :
    Ended schemas number contract judgement.finish where
  document := ended.document
  idle := derived.grows.building.trans ended.idle
  reserves := ended.reserves.grows derived.grows
  rightly := (derived.leadsToRecords ended.reserves ended.rightly).1
  chronicle := derived.chronicle ended.document stand ended.reserves ended.chronicle

/-- Nothing is registered yet. -/
theorem empty (document : schemas.Stands number contract)
    (reserves : ReservesComponents schemas s.registry) (idle : s.registry.building = [])
    (entries : s.registry.entries = []) (hoisted : s.hoisted = []) :
    Ended schemas number contract s := by
  have none : ∀ {name type}, s.registry.get? name ≠ some type := by
    intro name type found
    have member := Registry.mem_entries_of_get? found
    rw [entries] at member
    cases member
  have nowhere : ∀ {given}, given ∉ s.hoisted := by
    intro given member
    rw [hoisted] at member
    cases member
  exact ⟨document, idle, reserves, fun _ _ found => absurd found none,
    fun found => absurd found none, fun found => absurd found none, fun member => absurd member nowhere,
    fun member => absurd member nowhere, fun member => absurd member nowhere,
    fun member => absurd member nowhere⟩

end Translation.Ended

namespace Translator

/-- The sessions of a translator: after it has registered the components, and after
each schema of the document that it translates from then on. -/
inductive SessionOf (number : Nat) (contract : Json) (translator : Translator) :
    Session → Prop where
  | components {s t u : Session} {done : Unit} (fresh : s.registry = {}) (new : s.hoisted = [])
      (created : Run.Returns (create (.root number contract)) s translator t)
      (registered : Run.Returns translator.components t done u) :
      SessionOf number contract translator u
  | translated {s t : Session} {node : Node} {context : String} {type : Ty}
      (earlier : SessionOf number contract translator s) (stands : node.Stands number contract)
      (returned : Run.Returns (translator.translateNode node context) s type t) :
      SessionOf number contract translator t

theorem SessionOf.sound {s : Session} (stands : SessionOf number contract translator s) :
    translator.ties.Sound translator.schemas := by
  induction stands with
  | components fresh new created registered => exact sound_create created
  | translated earlier stands returned ih => exact ih

/-- What a translator returns for a part of the document has a derivation. -/
theorem derives_translateNode {schemas : Node} {node : Node} {context : String} {s t : Session}
    {type : Ty} (sound : translator.ties.Sound schemas)
    (returned : Run.Returns (translator.translateNode node context) s type t) :
    ∃ schema, Schema.parse node = .ok schema ∧
      Derives schemas (.schema schema context s type t) := by
  obtain ⟨schema, u, parsing, translated⟩ := Run.returns_bind.1 returned
  obtain ⟨parsed, rfl⟩ := Run.returns_lift.1 parsing
  exact ⟨schema, parsed, derives_translate sound translated⟩

/-- Between translations nothing is in progress and the chronicle is kept. -/
theorem SessionOf.ended {s : Session} (stands : SessionOf number contract translator s) :
    Ended translator.schemas number contract s := by
  induction stands with
  | @components s t u done fresh new created registered =>
      have document := Contract.stands_schemas Node.stands_root (returns_create created).1
      have reserves := reserves_create created (object_of_components created registered)
      obtain ⟨-, -, names, -, rfl⟩ := returns_create created
      refine components_induction (fun ended returned => ?_) registered
        (.empty document reserves ?_ ?_ new)
      · exact ended.derived ((sound_create created).component returned) trivial
      · rw [fresh]
        rfl
      · rw [fresh]
        rfl
  | translated earlier stands returned ih =>
      obtain ⟨schema, parsed, derived⟩ := derives_translateNode earlier.sound returned
      exact ih.derived derived ⟨_, stands, .of_parse parsed⟩

/-- Every value of a schema of the document is a value of its type over the registry.
An `allOf` whose members merge has `null` only when it is nullable itself. -/
theorem translateNode_accepts {s t : Session} {node : Node} {context : String} {schema : Schema}
    {type : Ty} {value : Json} (stands : SessionOf number contract translator s)
    (part : node.Stands number contract) (parsed : Schema.parse node = .ok schema)
    (returned : Run.Returns (translator.translateNode node context) s type t)
    (accepted : schema.Accepts translator.schemas (Merges translator.schemas) value) :
    type.Accepts t.registry value := by
  have ended : Ended translator.schemas number contract t :=
    (SessionOf.translated stands part returned).ended
  obtain ⟨same, found, derived⟩ := derives_translateNode stands.sound returned
  cases parsed.symm.trans found
  exact (kept_of_accepts ended accepted ⟨node, part, .of_parse parsed⟩).accepts derived (.refl t)

/-- A new translator registers the components and translates a part of its document. -/
def translateAfterComponents (contract : Json) (node : Node) : Run (Translator × Ty) := do
  let translator ← create (.root 0 contract)
  translator.components
  return (translator, ← translator.translateNode node "")

theorem sessionOf_translateAfterComponents {node : Node} {t : Session} {type : Ty}
    (returned : Run.Returns (translateAfterComponents contract node) {} (translator, type) t) :
    ∃ s, SessionOf 0 contract translator s ∧
      Contract.schemas (.root 0 contract) = .ok translator.schemas ∧
      Run.Returns (translator.translateNode node "") s type t := by
  unfold translateAfterComponents at returned
  simp only [Run.returns_bind, Run.returns_pure, Prod.mk.injEq] at returned
  obtain ⟨made, u, created, done, v, registered, found, w, translated, ⟨rfl, rfl⟩, rfl⟩ := returned
  exact ⟨v, .components rfl rfl created registered, (returns_create created).1, translated⟩

/-- A record that may be nothing at each of its uses. -/
def pair : Json := .object [("type", .str "object"), ("nullable", .bool true),
  ("properties", .object [("left", .object [("type", .str "string")])])]

/-- A document with that record alone. -/
def pairContract : Json :=
  .object [("components", .object [("schemas", .object [("Pair", pair)])])]

/-- The component schemas of that document. -/
def pairSchemas : Node := ⟨.object [("Pair", pair)], some ⟨0, [0, 0]⟩⟩

/-- A reference to that record. -/
def pairReference : Json := .object [("$ref", .str "#/components/schemas/Pair")]

theorem same_schemas (found : Contract.schemas (.root 0 pairContract) = .ok translator.schemas) :
    pairSchemas = translator.schemas :=
  Except.ok.inj (Eq.trans (show .ok pairSchemas = Contract.schemas (.root 0 pairContract) from rfl)
    found)

theorem translateNode_accepts_pair : ∃ translator s t schema type,
    SessionOf 0 pairContract translator s ∧ (Node.free pairReference).Stands 0 pairContract ∧
    Schema.parse (.free pairReference) = .ok schema ∧
    Run.Returns (translator.translateNode (.free pairReference) "") s type t ∧
    schema.Accepts translator.schemas (Merges translator.schemas)
      (.object [("left", .str "1")]) ∧
    type.Accepts t.registry (.object [("left", .str "1")]) := by
  have ok : ((translateAfterComponents pairContract (.free pairReference)).passes {}
      fun _ _ => true) = true := by decide +kernel
  obtain ⟨⟨translator, type⟩, t, returned⟩ := Run.exists_returns ok
  obtain ⟨s, stands, schemas, translated⟩ := sessionOf_translateAfterComponents returned
  obtain ⟨schema, parsed, kind, leads⟩ : ∃ schema, Schema.parse (.free pairReference) = .ok schema ∧
      schema.facts.kind = .reference ∧ target? pairSchemas schema.facts = .ok (some "Pair") :=
    ⟨_, rfl, rfl, rfl⟩
  obtain ⟨component, left, found, object, properties, text⟩ : ∃ component left,
      componentSchema pairSchemas "Pair" = .ok component ∧ component.facts.kind = .object ∧
      component.properties = [("left", left)] ∧ left.facts.kind = .string ∧
      left.facts.admits (.str "1") = true := ⟨_, _, rfl, rfl, rfl, rfl, rfl⟩
  have leftAccepts : left.Accepts pairSchemas (Merges pairSchemas) (.str "1") :=
    .scalar (by rw [text.1]; rfl) text.2
  have componentAccepts : component.Accepts pairSchemas (Merges pairSchemas)
      (.object [("left", .str "1")]) := by
    refine .object object (by simp [properties]) (fun property member _ => ?_)
      fun property member value held => ?_ <;>
    · rw [properties] at member
      obtain rfl := List.mem_singleton.1 member
      first
        | rfl
        | cases held; exact leftAccepts
  have accepts := Schema.Accepts.reference kind leads found componentAccepts
  rw [same_schemas schemas] at accepts
  exact ⟨translator, s, t, schema, type, stands, Node.stands_free, parsed, translated, accepts,
    translateNode_accepts stands Node.stands_free parsed translated accepts⟩

/-- All members of an `allOf` may have `null`, and the record they merge into has not. -/
theorem translateNode_drops_null : ∃ translator s t schema type,
    SessionOf 0 pairContract translator s ∧
    (Node.free (.object [("allOf", .list [pairReference])])).Stands 0 pairContract ∧
    Schema.parse (.free (.object [("allOf", .list [pairReference])])) = .ok schema ∧
    Run.Returns
      (translator.translateNode (.free (.object [("allOf", .list [pairReference])])) "") s type t ∧
    schema.Accepts translator.schemas (fun _ => False) .null ∧
    ¬ type.Accepts t.registry .null := by
  have ok : ((translateAfterComponents pairContract
      (.free (.object [("allOf", .list [pairReference])]))).passes {}
        fun found _ => found.2.isRecord) = true := by decide +kernel
  obtain ⟨⟨translator, type⟩, t, returned, record⟩ := Run.exists_returns_of ok
  obtain ⟨s, stands, schemas, translated⟩ := sessionOf_translateAfterComponents returned
  obtain ⟨schema, member, parsed, kind, members, refers, leads⟩ : ∃ schema member,
      Schema.parse (.free (.object [("allOf", .list [pairReference])])) = .ok schema ∧
      schema.facts.kind = .allOf ∧ schema.members = [member] ∧ member.facts.kind = .reference ∧
      target? pairSchemas member.facts = .ok (some "Pair") := ⟨_, _, rfl, rfl, rfl, rfl, rfl⟩
  obtain ⟨component, found, nullable⟩ : ∃ component,
      componentSchema pairSchemas "Pair" = .ok component ∧ component.facts.nullable = true :=
    ⟨_, rfl, rfl⟩
  have accepts : schema.Accepts pairSchemas (fun _ => False) .null := by
    refine .allOf kind (fun other among => ?_) fun _ => id
    rw [members] at among
    obtain rfl := List.mem_singleton.1 among
    exact .reference refers leads found (.null nullable)
  refine ⟨translator, s, t, schema, type, stands, Node.stands_free, parsed, translated,
    same_schemas schemas ▸ accepts, fun accepted => ?_⟩
  cases type with
  | record => cases accepted
  | _ => cases record

end Translator

end TypedContract
