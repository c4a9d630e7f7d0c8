/-
# TypedContract.Proofs.Signature.Marked -- parameters whose schema is marked as nullable

A marked schema is translated as the bare one is, to a type that may also be nothing.  The
check of a scalar looks through that (`Registry.isScalar_withNil`); the check of a header
looks for a list at the end of the references only, so a list that may be nothing is none
to it (`Registry.isHeaderType_withNil_iff`).

A parameter with a mark on its schema is therefore accepted as the bare one is, unless it is
a header whose bare schema leads to a list (`exists_parameter_marked_iff`).  Each parameter is
translated in the session that the ones before it have left, and these sessions are the same
with marks and without, so the same holds of a list of tasks
(`exists_perform_marked_iff`): what counts is whether some header leads to a list when its
turn comes (`ListsHeader`).
-/
import TypedContract.Proofs.Signature.Nilable
import TypedContract.Proofs.Signature.Scalar
import TypedContract.Proofs.Signature.Tasks
import TypedContract.Proofs.Translation.Marked

namespace TypedContract

set_option autoImplicit false

open Translation (withNil)

/-! ## Types that may also be nothing -/

namespace Registry

variable {registry : Registry} {type : Ty} {kind : ParameterKind}

/-- That a type may also be nothing does not decide whether it is scalar: a union of the type
and nothing asks about the type first. -/
theorem isScalar_withNil : registry.isScalar (withNil true type) = registry.isScalar type := by
  unfold withNil
  cases type.isNilable with
  | true => rfl
  | false =>
      have asks (bound : Nat) : registry.isScalarWithin (bound + 2) (.union none [type, .nil]) =
          registry.isScalarWithin (bound + 1) type := by
        change [type, Ty.nil].allM (registry.isScalarWithin (bound + 1)) = _
        rw [List.allM]
        cases registry.isScalarWithin (bound + 1) type with
        | error fault => rfl
        | ok answer => cases answer <;> rfl
      have heavy : (Ty.union none [type, .nil]).weight = type.weight + 2 := rfl
      refine isScalar_congr fun answer => ?_
      change registry.isScalarWithin (registry.weight + Ty.weight (.union none [type, .nil]) + 1)
        (.union none [type, .nil]) = .ok answer ↔ _
      rw [heavy, ← Nat.add_assoc, asks, isScalar_eq_ok_iff]
      exact isScalarWithin_eq_ok_iff (Nat.lt_succ_of_lt (Nat.lt_succ_of_lt (length_pool_lt _ _)))

theorem resolve_ne_array_of_isNilable (nilable : type.isNilable = true) (element : Ty) :
    registry.resolve type ≠ .array element := by
  cases type with
  | primitive p => exact (nofun : Ty.primitive p ≠ .array element)
  | union name members => exact (nofun : Ty.union name members ≠ .array element)
  | _ => cases nilable

/-- A list that may also be nothing is no list for a header. -/
theorem isHeaderType_withNil_iff : registry.isHeaderType (withNil true type) = .ok true ↔
    registry.isHeaderType type = .ok true ∧ ∀ element, registry.resolve type ≠ .array element := by
  have apart : ∀ element, registry.resolve (withNil true type) ≠ .array element :=
    resolve_ne_array_of_isNilable Ty.isNilable_withNil
  rw [isHeaderType_of_not_array apart, isScalar_withNil]
  by_cases array : ∃ element, registry.resolve type = .array element
  · obtain ⟨element, resolved⟩ := array
    rw [isScalar_of_array resolved]
    exact iff_of_false nofun fun both => both.2 element resolved
  · have none : ∀ element, registry.resolve type ≠ .array element := not_exists.1 array
    rw [isHeaderType_of_not_array none]
    exact (and_iff_left none).symm

/-- The type is one that the location takes. -/
def Takes (registry : Registry) (type : Ty) : ParameterKind → Prop
  | .path => registry.isScalar type = .ok true
  | .header => registry.isHeaderType type = .ok true
  | _ => True

theorem takes_withNil_iff : registry.Takes (withNil true type) kind ↔ registry.Takes type kind ∧
    ¬ (kind = .header ∧ ∃ element, registry.resolve type = .array element) := by
  cases kind with
  | path => simp [Takes, isScalar_withNil]
  | header => simp [Takes, isHeaderType_withNil_iff]
  | _ => simp [Takes]

end Registry

/-! ## Writing a member -/

theorem Json.position?_put {name : String} {old new : Json} {entries : List (String × Json)}
    (held : find? name entries = some old) :
    position? name (put name new entries) = position? name entries := by
  induction entries with
  | nil => cases held
  | cons entry rest ih =>
      obtain ⟨key, value⟩ := entry
      unfold put
      split
      · rfl
      · rename_i apart
        rw [find?, if_neg apart] at held
        rw [position?, position?, ih held]

theorem Json.find?_put_congr {name other : String} {value : Json}
    {entries entries' : List (String × Json)} (same : find? name entries' = find? name entries) :
    find? name (put other value entries') = find? name (put other value entries) := by
  by_cases own : name = other
  · rw [own, find?_put, find?_put]
  · rw [find?_put_of_ne own, find?_put_of_ne own, same]

namespace Node

variable {place : Option Place} {name other : String} {entries : List (String × Json)}
  {old new : Json}

/-- A member that is written anew keeps its place. -/
theorem exists_member_put (place : Option Place) (new : Json)
    (held : Json.find? name entries = some old) :
    ∃ inner, Node.member ⟨.object entries, place⟩ name = .ok ⟨old, inner⟩ ∧
      Node.member ⟨.object (Json.put name new entries), place⟩ name = .ok ⟨new, inner⟩ := by
  obtain ⟨position, here⟩ := Json.exists_position? held
  refine ⟨(child ⟨.object entries, place⟩ position old).place, ?_, ?_⟩
  · change Except.ok ((Node.find? ⟨.object entries, place⟩ name entries).getD _) = _
    rw [Node.find?, here, held]
    rfl
  · change Except.ok ((Node.find? ⟨.object (Json.put name new entries), place⟩ name _).getD _) = _
    rw [Node.find?, Json.position?_put held, Json.find?_put, here]
    rfl

theorem member_put (apart : other ≠ name) :
    Node.member ⟨.object (Json.put name new entries), place⟩ other =
      Node.member ⟨.object entries, place⟩ other := by
  change Except.ok ((Node.find? ⟨.object (Json.put name new entries), place⟩ other _).getD _) =
    Except.ok ((Node.find? ⟨.object entries, place⟩ other _).getD _)
  rw [Node.find?, Node.find?, Json.find?_put_of_ne apart, Json.position?_put_of_ne apart]
  rfl

/-- Children know the place of what they stand in, and not its value. -/
theorem childrenFrom_eq {value : Json} {values : List Json} : ∀ {position : Nat},
    childrenFrom ⟨value, place⟩ position values = childrenFrom ⟨.null, place⟩ position values := by
  induction values with
  | nil => exact rfl
  | cons first rest ih => exact congrArg (List.cons _) ih

/-- Children of which one is another value. -/
theorem forall₂_childrenFrom {node : Node} {related : Node → Node → Prop} {front back : List Json}
    (refl : ∀ inner, related inner inner)
    (own : ∀ position, related (node.child position old) (node.child position new)) :
    ∀ position, List.Forall₂ related (node.childrenFrom position (front ++ old :: back))
      (node.childrenFrom position (front ++ new :: back)) := by
  induction front with
  | nil => exact fun position => .cons (own position) (List.forall₂_same.2 fun inner _ => refl inner)
  | cons value rest ih => exact fun position => .cons (refl _) (ih (position + 1))

end Node

/-! ## Parameters of the contract -/

/-- The second parameter of the contract is the first one with its schema marked. -/
structure Node.MarksSchema (bare marked : Node) : Prop where
  objects : ∃ entries entries', bare.value = .object entries ∧ marked.value = .object entries' ∧
    ∀ name, name ≠ "schema" → name ≠ "content" →
      Json.find? name entries' = Json.find? name entries
  schemas : ∃ schema schema', SignatureBuilder.schemaOf bare = .ok schema ∧
    SignatureBuilder.schemaOf marked = .ok schema' ∧ schema.Marks schema'

namespace Node.MarksSchema

variable {bare marked : Node} {name : String}

theorem member? (marks : bare.MarksSchema marked) (schema : name ≠ "schema")
    (content : name ≠ "content") : marked.value.member? name = bare.value.member? name := by
  obtain ⟨entries, entries', object, object', same⟩ := marks.objects
  rw [object, object']
  exact congrArg Except.ok (same name schema content)

theorem member (marks : bare.MarksSchema marked) (schema : name ≠ "schema")
    (content : name ≠ "content") : marked.value.member name = bare.value.member name := by
  unfold Json.member
  rw [marks.member? schema content]

theorem required (marks : bare.MarksSchema marked) (schema : name ≠ "schema")
    (content : name ≠ "content") : marked.value.required name = bare.value.required name := by
  obtain ⟨entries, entries', object, object', same⟩ := marks.objects
  unfold Json.required
  rw [object, object']
  dsimp only
  rw [same name schema content]

theorem annotationsFor (marks : bare.MarksSchema marked) :
    Example.annotationsFor marked.value name = Example.annotationsFor bare.value name := by
  unfold Example.annotationsFor
  rw [marks.member? (by decide) (by decide), marks.member (by decide) (by decide)]

theorem irrefl : ¬ bare.MarksSchema bare := by
  intro marks
  obtain ⟨schema, schema', read, read', own⟩ := marks.schemas
  cases read.symm.trans read'
  nomatch own.off.symm.trans own.on

section

variable {entries entries' : List (String × Json)} {place place' : Option Place}
  {other : String} {value : Json}

theorem schemaOf_put (schema : other ≠ "schema") (content : other ≠ "content") :
    SignatureBuilder.schemaOf ⟨.object (Json.put other value entries), place⟩ =
      SignatureBuilder.schemaOf ⟨.object entries, place⟩ := by
  unfold SignatureBuilder.schemaOf
  rw [Node.member_put schema.symm, Node.member_put content.symm]

/-- Another member may be written into both. -/
theorem put_other (marks : MarksSchema ⟨.object entries, place⟩ ⟨.object entries', place'⟩)
    (schema : other ≠ "schema") (content : other ≠ "content") :
    MarksSchema ⟨.object (Json.put other value entries), place⟩
      ⟨.object (Json.put other value entries'), place'⟩ := by
  obtain ⟨⟨_, _, ⟨⟩, ⟨⟩, same⟩, found, found', read, read', own⟩ := marks
  refine ⟨⟨_, _, rfl, rfl, fun name apart apart' =>
    Json.find?_put_congr (same name apart apart')⟩, found, found', ?_, ?_, own⟩
  · rw [schemaOf_put schema content, read]
  · rw [schemaOf_put schema content, read']

/-- The schema of a parameter gets a true mark. -/
theorem put_mark {schema : List (String × Json)} {flag : Json}
    (typed : Json.find? "schema" entries = some (.object schema))
    (off : ((Json.find? "nullable" schema).getD .null).truthy = false) (on : flag.truthy = true) :
    MarksSchema ⟨.object entries, place⟩
      ⟨.object (Json.put "schema" (.object (Json.put "nullable" flag schema)) entries), place⟩ := by
  obtain ⟨inner, read, read'⟩ :=
    Node.exists_member_put place (.object (Json.put "nullable" flag schema)) typed
  refine ⟨⟨entries, _, rfl, rfl, fun _ apart _ => Json.find?_put_of_ne apart⟩, ⟨_, inner⟩,
    ⟨_, inner⟩, ?_, ?_, .put rfl off on⟩
  · unfold SignatureBuilder.schemaOf
    rw [read]
    rfl
  · unfold SignatureBuilder.schemaOf
    rw [read', Node.member_put (by decide)]
    rfl

end

end Node.MarksSchema

/-- The names of a parameter. -/
def Parameter.names (parameter : Parameter) : String × String :=
  (parameter.name, parameter.display)

namespace SignatureBuilder

variable {builder : SignatureBuilder} {context name : String} {raw bare marked : Node}
  {kind : ParameterKind} {type : Ty} {s t u : Session} {names : String × String}

/-- The name of a parameter, the type of its schema and the session after its translation. -/
def Types (builder : SignatureBuilder) (context : String) (raw : Node) (s : Session)
    (name : String) (type : Ty) (t : Session) : Prop :=
  ∃ named schema default, raw.value.required "name" = .ok named ∧ named.text = .ok name ∧
    schemaOf raw = .ok schema ∧
    Run.Returns (builder.typeAndDefault schema name context) s (type, default) t

theorem Types.unique {name' : String} {type' : Ty} (types : builder.Types context raw s name type t)
    (again : builder.Types context raw s name' type' u) : name = name' ∧ type = type' ∧ t = u := by
  obtain ⟨named, schema, default, held, text, read, returned⟩ := types
  obtain ⟨named', schema', default', held', text', read', returned'⟩ := again
  cases held.symm.trans held'
  cases text.symm.trans text'
  cases read.symm.trans read'
  obtain ⟨same, rfl⟩ := returned.unique returned'
  exact ⟨rfl, congrArg Prod.fst same, rfl⟩

/-- What is read of a parameter besides its name and its schema. -/
def Words (raw : Node) (name : String) (s t : Session) : Prop :=
  (∃ flag, raw.value.member "required" = .ok flag) ∧
  (∃ text description, raw.value.member "description" = .ok text ∧
    Schema.strip (text.orElse (.str "")) = .ok description) ∧
  ∃ annotations, Run.Returns (Example.annotationsFor raw.value name) s annotations t

theorem returns_checkType {done : Unit} :
    Run.Returns (checkType kind type name).run s (some done) t ↔
      s = t ∧ s.registry.Takes type kind := by
  have checked {check : Except Fault Bool} {code : Diagnostic.Code} :
      Run.Returns (do
        if !(← Mapping.lift check) then Mapping.giveUp code [name] : Mapping Unit).run s
          (some done) t ↔ s = t ∧ check = .ok true := by
    rw [Mapping.returns_read]
    constructor
    · rintro ⟨answer, own, rest⟩
      cases answer with
      | true => exact ⟨(Mapping.returns_pure.1 rest).2, own⟩
      | false => exact absurd rest Mapping.not_returns_giveUp
    · rintro ⟨rfl, own⟩
      exact ⟨true, own, Mapping.returns_pure.2 ⟨rfl, rfl⟩⟩
  unfold checkType
  rw [Mapping.returns_bind]
  simp only [Mapping.returns_step, Run.returns_registry]
  constructor
  · rintro ⟨_, _, ⟨rfl, rfl⟩, rest⟩
    cases kind with
    | path => exact checked.1 rest
    | header => exact checked.1 rest
    | _ => exact ⟨(Mapping.returns_pure.1 rest).2, trivial⟩
  · rintro ⟨rfl, takes⟩
    refine ⟨_, s, ⟨rfl, rfl⟩, ?_⟩
    cases kind with
    | path => exact checked.2 ⟨rfl, takes⟩
    | header => exact checked.2 ⟨rfl, takes⟩
    | _ => exact Mapping.returns_pure.2 ⟨rfl, rfl⟩

/-- When a parameter of the contract is accepted, and under which names. -/
theorem exists_parameter_iff :
    (∃ p, Run.Returns (builder.parameter raw kind context).run s (some p) t ∧ p.names = names) ↔
      ∃ name type u, builder.Types context raw s name type u ∧ u.registry.Takes type kind ∧
        Words raw name u t ∧ (name, Name.display name) = names := by
  constructor
  · rintro ⟨p, returned, rfl⟩
    unfold SignatureBuilder.parameter at returned
    obtain ⟨named, held, returned⟩ := Mapping.returns_read.1 returned
    obtain ⟨schema, schemed, returned⟩ := Mapping.returns_read.1 returned
    obtain ⟨name, isText, returned⟩ := Mapping.returns_read.1 returned
    obtain ⟨⟨type, default⟩, u, typed, returned⟩ := Mapping.returns_bind.1 returned
    obtain ⟨_, v, checked, returned⟩ := Mapping.returns_bind.1 returned
    obtain ⟨rfl, takes⟩ := returns_checkType.1 checked
    obtain ⟨flag, flagged, returned⟩ := Mapping.returns_read.1 returned
    obtain ⟨description, stripped, returned⟩ := Mapping.returns_read.1 returned
    obtain ⟨annotations, w, annotated, returned⟩ := Mapping.returns_bind.1 returned
    obtain ⟨rfl, rfl⟩ := Mapping.returns_pure.1 returned
    obtain ⟨text, found, stripped⟩ := except_bind_eq_ok.1 stripped
    exact ⟨name, type, u,
      ⟨named, schema, default, held, isText, schemed, Mapping.returns_step.1 typed⟩, takes,
      ⟨⟨flag, flagged⟩, ⟨text, description, found, stripped⟩,
        ⟨annotations, Mapping.returns_step.1 annotated⟩⟩, by rw [Parameter.names]⟩
  · rintro ⟨name, type, u, ⟨named, schema, default, held, isText, schemed, typed⟩, takes,
      ⟨⟨flag, flagged⟩, ⟨text, description, found, stripped⟩, annotations, annotated⟩, rfl⟩
    unfold SignatureBuilder.parameter
    exact ⟨_, Mapping.returns_read.2 ⟨named, held, Mapping.returns_read.2 ⟨schema, schemed,
      Mapping.returns_read.2 ⟨name, isText, Mapping.returns_bind.2 ⟨(type, default), u,
        Mapping.returns_step.2 typed, Mapping.returns_bind.2 ⟨(), u,
          returns_checkType.2 ⟨rfl, takes⟩, Mapping.returns_read.2 ⟨flag, flagged,
            Mapping.returns_read.2 ⟨description, except_bind_eq_ok.2 ⟨text, found, stripped⟩,
              Mapping.returns_bind.2 ⟨annotations, t, Mapping.returns_step.2 annotated,
                Mapping.returns_pure.2 ⟨rfl, rfl⟩⟩⟩⟩⟩⟩⟩⟩⟩, by rw [Parameter.names]⟩

/-! ## Marked parameters -/

theorem words_marked_iff (marks : bare.MarksSchema marked) :
    Words marked name s t ↔ Words bare name s t := by
  unfold Words
  rw [marks.member (by decide) (by decide), marks.member (by decide) (by decide),
    marks.annotationsFor]

/-- The default that is kept: none that a double cannot tell from its neighbour. -/
def keptDefault (name : String) (default : Json) : Run Json := do
  if isUnsafe default then
    Run.report .unsafeDefault [name]
    return .null
  return default

/-- The default is looked at once the schema is translated, and not with its type. -/
theorem returns_typeAndDefault {schema : Node} {default : Json}
    (some : schema.value.isNull = false) :
    Run.Returns (builder.typeAndDefault schema name context) s (type, default) t ↔
      ∃ u held, Run.Returns (builder.translator.translateNode schema (context ++ Name.pascal name))
        s type u ∧ schema.value.member "default" = .ok held ∧
        Run.Returns (keptDefault name held) u default t := by
  have splits : builder.typeAndDefault schema name context = do
      let type ← builder.translator.translateNode schema (context ++ Name.pascal name)
      let held ← Run.lift (schema.value.member "default")
      let default ← keptDefault name held
      return (type, default) := by
    unfold typeAndDefault keptDefault
    rw [some]
    refine bind_congr fun type => bind_congr fun held => ?_
    split
    · rw [bind_assoc]
      rfl
    · rfl
  rw [splits]
  simp only [Run.returns_bind, Run.returns_lift, Run.returns_pure, Prod.mk.injEq]
  constructor
  · rintro ⟨_, u, translated, held, _, ⟨member, rfl⟩, _, _, kept, ⟨rfl, rfl⟩, rfl⟩
    exact ⟨u, held, translated, member, kept⟩
  · rintro ⟨u, held, translated, member, kept⟩
    exact ⟨type, u, translated, held, u, ⟨member, rfl⟩, default, t, kept, ⟨rfl, rfl⟩, rfl⟩

theorem returns_typeAndDefault_marked {type' : Ty} {default : Json} (marks : bare.Marks marked) :
    Run.Returns (builder.typeAndDefault marked name context) s (type', default) t ↔
      ∃ type, Run.Returns (builder.typeAndDefault bare name context) s (type, default) t ∧
        type' = withNil true type := by
  obtain ⟨entries, entries', object, object', -⟩ := marks.alike.objects
  have some : bare.value.isNull = false := by rw [object]; rfl
  have some' : marked.value.isNull = false := by rw [object']; rfl
  rw [returns_typeAndDefault some', marks.alike.value_member (by decide)]
  simp only [returns_typeAndDefault some, Translator.returns_translateNode_marked marks]
  constructor
  · rintro ⟨u, held, ⟨type, translated, rfl⟩, member, kept⟩
    exact ⟨type, ⟨u, held, translated, member, kept⟩, rfl⟩
  · rintro ⟨type, ⟨u, held, translated, member, kept⟩, rfl⟩
    exact ⟨u, held, ⟨type, translated, rfl⟩, member, kept⟩

theorem types_marked_iff {type' : Ty} (marks : bare.MarksSchema marked) :
    builder.Types context marked s name type' t ↔
      ∃ type, builder.Types context bare s name type t ∧ type' = withNil true type := by
  obtain ⟨schema, schema', read, read', own⟩ := marks.schemas
  unfold Types
  rw [marks.required (by decide) (by decide)]
  constructor
  · rintro ⟨named, found, default, held, text, again, returned⟩
    cases read'.symm.trans again
    obtain ⟨type, typed, rfl⟩ := (returns_typeAndDefault_marked own).1 returned
    exact ⟨type, ⟨named, schema, default, held, text, read, typed⟩, rfl⟩
  · rintro ⟨type, ⟨named, found, default, held, text, again, returned⟩, rfl⟩
    cases read.symm.trans again
    exact ⟨named, schema', default, held, text, read',
      (returns_typeAndDefault_marked own).2 ⟨type, returned, rfl⟩⟩

/-- The type of the parameter's schema leads to a list. -/
def LeadsToList (builder : SignatureBuilder) (context : String) (raw : Node) (s : Session) : Prop :=
  ∃ name type t element, builder.Types context raw s name type t ∧
    t.registry.resolve type = .array element

/-- A marked parameter is accepted as the bare one is, unless it is a header whose bare
schema leads to a list. -/
theorem exists_parameter_marked_iff (marks : bare.MarksSchema marked) :
    (∃ p, Run.Returns (builder.parameter marked kind context).run s (some p) t ∧
        p.names = names) ↔
      (∃ p, Run.Returns (builder.parameter bare kind context).run s (some p) t ∧
        p.names = names) ∧ ¬ (kind = .header ∧ builder.LeadsToList context bare s) := by
  simp only [exists_parameter_iff, types_marked_iff marks, words_marked_iff marks]
  constructor
  · rintro ⟨name, _, u, ⟨type, types, rfl⟩, takes, words, rfl⟩
    obtain ⟨takes, apart⟩ := Registry.takes_withNil_iff.1 takes
    refine ⟨⟨name, type, u, types, takes, words, rfl⟩, ?_⟩
    rintro ⟨isHeader, name', type', u', element, again, leads⟩
    obtain ⟨-, rfl, rfl⟩ := types.unique again
    exact apart ⟨isHeader, element, leads⟩
  · rintro ⟨⟨name, type, u, types, takes, words, rfl⟩, apart⟩
    refine ⟨name, _, u, ⟨type, types, rfl⟩, Registry.takes_withNil_iff.2 ⟨takes, ?_⟩, words, rfl⟩
    rintro ⟨isHeader, element, leads⟩
    exact apart ⟨isHeader, name, type, u, element, types, leads⟩

/-! ## Marked tasks -/

variable {builder' : SignatureBuilder}

/-- The builders differ in their documents only. -/
structure Beside (builder builder' : SignatureBuilder) : Prop where
  translator : builder'.translator = builder.translator
  configuration : builder'.configuration = builder.configuration

/-- The second task is the first one, or the schema of its parameter is marked. -/
inductive Task.Marked : Task → Task → Prop where
  | same (task : Task) : Marked task task
  | parameter {kind : ParameterKind} {bare marked : Node} (marks : bare.MarksSchema marked) :
      Marked (.parameter kind bare) (.parameter kind marked)
  /-- A payload whose content differs in the headers of its encodings. -/
  | payload {body body' content content' : Node}
      (same : ∀ builder context, SignatureBuilder.payload builder body' content' context =
        SignatureBuilder.payload builder body content context) :
      Marked (.payload body content) (.payload body' content')

/-- The second task is the first one with a mark, for a header whose bare schema leads to a
list. -/
def Task.ListsHeader (builder : SignatureBuilder) (context : String) (task task' : Task)
    (s : Session) : Prop :=
  ∃ bare marked, task = .parameter .header bare ∧ task' = .parameter .header marked ∧
    bare.MarksSchema marked ∧ builder.LeadsToList context bare s

/-- When its turn comes, a task is one for a header with a mark whose bare schema leads to a
list. -/
inductive ListsHeader (builder : SignatureBuilder) (context : String) :
    List Task → List Task → Session → Prop where
  | here {task task' : Task} {rest rest' : List Task} {s : Session}
      (lists : task.ListsHeader builder context task' s) :
      ListsHeader builder context (task :: rest) (task' :: rest') s
  | later {task task' : Task} {rest rest' : List Task} {s u : Session} {found : List Parameter}
      (performed : Run.Returns (task.perform builder context).run s (some found) u)
      (lists : ListsHeader builder context rest rest' u) :
      ListsHeader builder context (task :: rest) (task' :: rest') s

section

variable {task task' : Task} {tasks tasks' : List Task} {given : List (String × String)}

theorem Beside.perform (beside : builder.Beside builder') :
    task.perform builder' context = task.perform builder context := by
  obtain ⟨document, translator, configuration⟩ := builder
  obtain ⟨document', translator', configuration'⟩ := builder'
  obtain ⟨rfl, rfl⟩ := beside
  cases task <;> rfl

/-- A marked task comes back as the bare one does, with the same names and the same session,
unless it lists a header. -/
theorem Task.Marked.exists_perform_iff (beside : builder.Beside builder')
    (marked : task.Marked task') :
    (∃ ps, Run.Returns (task'.perform builder' context).run s (some ps) t ∧
        ps.map Parameter.names = given) ↔
      (∃ ps, Run.Returns (task.perform builder context).run s (some ps) t ∧
        ps.map Parameter.names = given) ∧ ¬ task.ListsHeader builder context task' s := by
  rw [beside.perform]
  cases marked with
  | same task =>
      refine (and_iff_left ?_).symm
      rintro ⟨bare, marked, rfl, same, marks, -⟩
      cases same
      exact marks.irrefl
  | payload same =>
      rw [Task.perform, same]
      refine (and_iff_left ?_).symm
      rintro ⟨bare, marked, none, -⟩
      cases none
  | @parameter kind bare marked marks =>
      -- such a task gives one parameter
      have one {raw : Node} : (∃ ps, Run.Returns
          (Task.perform builder context (.parameter kind raw)).run s (some ps) t ∧
            ps.map Parameter.names = given) ↔
          ∃ names, given = [names] ∧ ∃ p, Run.Returns (builder.parameter raw kind context).run s
            (some p) t ∧ p.names = names := by
        simp only [Task.perform, Mapping.returns_bind, Mapping.returns_pure]
        constructor
        · rintro ⟨_, ⟨p, _, returned, rfl, rfl⟩, rfl⟩
          exact ⟨_, rfl, p, returned, rfl⟩
        · rintro ⟨_, rfl, p, returned, rfl⟩
          exact ⟨[p], ⟨p, t, returned, rfl, rfl⟩, rfl⟩
      simp only [one, exists_parameter_marked_iff marks]
      have lists : (Task.parameter kind bare).ListsHeader builder context (.parameter kind marked) s ↔
          kind = .header ∧ builder.LeadsToList context bare s := by
        constructor
        · rintro ⟨_, _, ⟨⟩, ⟨⟩, -, leads⟩
          exact ⟨rfl, leads⟩
        · rintro ⟨rfl, leads⟩
          exact ⟨bare, marked, rfl, rfl, marks, leads⟩
      rw [lists]
      constructor
      · rintro ⟨names, rfl, own, apart⟩
        exact ⟨⟨names, rfl, own⟩, apart⟩
      · rintro ⟨⟨names, rfl, own⟩, apart⟩
        exact ⟨names, rfl, own, apart⟩

theorem returns_perform_cons {ps : List Parameter} {rest : List Task} :
    Run.Returns (builder.perform context (task :: rest)).run s (some ps) t ↔
      ∃ first u more, Run.Returns (task.perform builder context).run s (some first) u ∧
        Run.Returns (builder.perform context rest).run u (some more) t ∧ ps = first ++ more := by
  simp only [SignatureBuilder.perform, Mapping.returns_bind, Mapping.returns_pure]
  constructor
  · rintro ⟨first, u, own, more, _, others, rfl, rfl⟩
    exact ⟨first, u, more, own, others, rfl⟩
  · rintro ⟨first, u, more, own, others, rfl⟩
    exact ⟨first, u, own, more, t, others, rfl, rfl⟩

/-- So do marked tasks, performed one after the other. -/
theorem exists_perform_marked_iff (beside : builder.Beside builder')
    (marked : List.Forall₂ Task.Marked tasks tasks') :
    (∃ ps, Run.Returns (builder'.perform context tasks').run s (some ps) t ∧
        ps.map Parameter.names = given) ↔
      (∃ ps, Run.Returns (builder.perform context tasks).run s (some ps) t ∧
        ps.map Parameter.names = given) ∧ ¬ builder.ListsHeader context tasks tasks' s := by
  induction marked generalizing s given with
  | nil =>
      refine (and_iff_left ?_).symm
      rintro ⟨⟩
  | @cons task task' rest rest' own _ ih =>
      simp only [returns_perform_cons]
      constructor
      · rintro ⟨_, ⟨first', u, more', performed', others', rfl⟩, rfl⟩
        obtain ⟨⟨first, performed, same⟩, apart⟩ :=
          (own.exists_perform_iff beside).1 ⟨first', performed', rfl⟩
        obtain ⟨⟨more, others, same'⟩, later⟩ := ih.1 ⟨more', others', rfl⟩
        refine ⟨⟨_, ⟨first, u, more, performed, others, rfl⟩, ?_⟩, ?_⟩
        · rw [List.map_append, List.map_append, same, same']
        · rintro (lists | ⟨again, lists⟩)
          · exact apart lists
          · obtain ⟨-, rfl⟩ := performed.unique again
            exact later lists
      · rintro ⟨⟨_, ⟨first, u, more, performed, others, rfl⟩, rfl⟩, apart⟩
        obtain ⟨first', performed', same⟩ := (own.exists_perform_iff beside).2
          ⟨⟨first, performed, rfl⟩, fun lists => apart (.here lists)⟩
        obtain ⟨more', others', same'⟩ := ih.2
          ⟨⟨more, others, rfl⟩, fun lists => apart (.later performed lists)⟩
        refine ⟨_, ⟨first', u, more', performed', others', rfl⟩, ?_⟩
        rw [List.map_append, List.map_append, same, same']

end

end SignatureBuilder

end TypedContract
