/-
# TypedContract.Proofs.Translation.Derivation -- how a type comes about

The translation is a program over sessions with a bound on how many components
stand inside one another.  `Derives` says the same without program and bound: a
derivation of `.schema node context s type t` is the tree of all that happens when
`node` becomes `type` between the sessions `s` and `t`: each reference stands over
the registration of its component, each inline record over its hoisting, each
`allOf` over its members and over the rebuilding of those still in progress.

What holds of every translation is one induction over derivations; that the program's
translations have derivations is `Ties.within_sound`.
-/
import TypedContract.Translation
import TypedContract.Proofs.Returning
import TypedContract.Proofs.Steps

namespace TypedContract.Translation

set_option autoImplicit false

open Schema

/-! ## The parts of a translation -/

/-- The parsed schema of a component. -/
def componentSchema (schemas : Node) (name : String) : Except Fault Schema := do
  parse (← schemas.required name)

/-- The component that a reference leads to, if it leads to one. -/
def target? (schemas : Node) (facts : Facts) : Except Fault (Option String) := do
  match ← facts.refName with
  | none => return none
  | some name => return if ← schemas.value.holds name then some name else none

/-- The schema describes texts, numbers or truth values. -/
def isScalarKind : Kind → Bool
  | .string | .number | .integer | .boolean => true
  | _ => false

/-- The name under which an `allOf` merges in a context. -/
def mergeName (context : String) : Option String := if context == "" then none else some context

/-- The members of a union with their contexts. -/
def unionParts (context : String) (i : Nat) (members : List Schema) : List (Schema × String) :=
  (members.zipIdx i).map fun part => (part.1, extend context (toString part.2))

/-- The members of a union component with their contexts. -/
def numberedParts (name : String) (members : List Schema) : List (Schema × String) :=
  (members.zipIdx 1).map fun part => (part.1, name ++ toString part.2)

/-- The members of an `allOf` that are more than notes, with their contexts. -/
def typedParts (name : Option String) (i : Nat) (members : List Schema) :
    List (Schema × String) :=
  ((members.filter (!·.isNote)).zipIdx i).map fun part =>
    (part.1, memberContext name part.2 part.1.kind)

theorem map_fst_unionParts {context : String} {i : Nat} {members : List Schema} :
    (unionParts context i members).map Prod.fst = members := by
  simp [unionParts, Function.comp_def]

theorem map_fst_numberedParts {name : String} {members : List Schema} :
    (numberedParts name members).map Prod.fst = members := by
  simp [numberedParts, Function.comp_def]

theorem map_fst_typedParts {name : Option String} {i : Nat} {members : List Schema} :
    (typedParts name i members).map Prod.fst = members.filter (!·.isNote) := by
  simp [typedParts, Function.comp_def]

section

variable {keeps : Schema → Prop} {members : List Schema} (each : ∀ member ∈ members, keeps member)

include each

theorem forall_unionParts {context : String} {i : Nat} :
    ∀ part ∈ unionParts context i members, keeps part.1 := by
  intro part inside
  have member : part.1 ∈ (unionParts context i members).map Prod.fst := List.mem_map_of_mem inside
  rw [map_fst_unionParts] at member
  exact each _ member

theorem forall_numberedParts {name : String} :
    ∀ part ∈ numberedParts name members, keeps part.1 := by
  intro part inside
  have member : part.1 ∈ (numberedParts name members).map Prod.fst := List.mem_map_of_mem inside
  rw [map_fst_numberedParts] at member
  exact each _ member

theorem forall_typedParts {name : Option String} {i : Nat} :
    ∀ part ∈ typedParts name i members, keeps part.1 := by
  intro part inside
  have member : part.1 ∈ (typedParts name i members).map Prod.fst := List.mem_map_of_mem inside
  rw [map_fst_typedParts] at member
  exact each _ (List.mem_filter.1 member).1

end

/-- The context of a property of a record. -/
def propertyContext (name : Option String) (property : String) : String :=
  match name with
  | some name => if name == "" then "" else name ++ Name.pascal property
  | none => ""

/-- The field of a property. -/
def fieldOf (required : List Json) (property : String) (schema : Schema) (type : Ty)
    (description : String) : Field Ty where
  name := property
  type := type
  required := required.any (Json.same (.str property))
  default := schema.facts.default
  description := description
  readOnly := schema.facts.readOnly

/-- The type of a union component. -/
def namedUnion (name : String) (nullable : Bool) (types : List Ty) : Ty :=
  if nullable && !(Ty.union (some name) types).isNilable then
    .union (some name) (types ++ [.nil])
  else .union (some name) types

/-- The type of a reference to a component. -/
def referenceType (nilable : Bool) (name : String) : Ty :=
  if nilable then .union none [.reference name, .nil] else .reference name

/-- A merge that meets the component builds it anew. -/
def Rebuilds (schemas : Node) (s : Session) (name : String) : Prop :=
  s.registry.inProgress name = true ∧ schemas.value.holds name = .ok true ∧
    s.rebuilding.contains name = false

/-- The types are records and can be merged. -/
def mergeable (types : List Ty) : Bool := !types.isEmpty && types.all Ty.isRecord

/-- The session with one more diagnostic. -/
def reported (s : Session) (code : Diagnostic.Code) (args : List String) : Session :=
  { s with diagnostics := s.diagnostics ++ [⟨code, args, none⟩] }

/-- The session that has named a place as the one a record is hoisted from. -/
def hoisting (s : Session) (name : String) (place : Option Place) : Session :=
  { s with hoisted := (name, place) :: s.hoisted }

theorem scalar_of {scalar : Scalar} {format : Json} :
    (Primitive.of scalar format).scalar = scalar ∧ (Primitive.of scalar format).enum = none := by
  cases scalar <;> exact ⟨rfl, rfl⟩

/-- The name of a format, empty when there is none. -/
def formatName (format : Json) : String :=
  match format with
  | .str name => name
  | _ => ""

/-- The type of a scalar schema: its kind, its format and the values it lists. -/
theorem scalar_eq_ok {facts : Facts} {type : Ty} (typed : scalar facts = .ok type) :
    ∃ values?, enumValues facts.enum = .ok values? ∧
      type = .primitive { Primitive.of (scalarOf facts.kind (formatName facts.format))
        facts.format with enum := values? } := by
  unfold scalar at typed
  simp only [except_bind_eq_ok] at typed
  obtain ⟨format, keyed, values?, listed, typed⟩ := typed
  have same : facts.format = format := by
    unfold Json.key at keyed
    split at keyed
    · exact Except.ok.inj keyed
    · cases keyed
  subst same
  refine ⟨values?, listed, ?_⟩
  have unlisted : ∀ p : Primitive, p.enum = none → p = { p with enum := none } := by
    rintro ⟨_⟩ rfl
    rfl
  cases values? with
  | none => exact (except_pure_eq_ok.1 typed).symm.trans (congrArg _ (unlisted _ scalar_of.2))
  | some values => exact (except_pure_eq_ok.1 typed).symm

/-! ## Derivations -/

/-- What a part of a translation comes to between two sessions. -/
inductive Judgement where
  /-- A schema in a context. -/
  | schema (schema : Schema) (context : String) (s : Session) (type : Ty) (t : Session)
  /-- A schema without the nil that it may add. -/
  | bare (schema : Schema) (context : String) (s : Session) (type : Ty) (t : Session)
  /-- Schemas one after the other. -/
  | each (parts : List (Schema × String)) (s : Session) (types : List Ty) (t : Session)
  /-- The properties of a record. -/
  | fields (name : Option String) (required : List Json) (properties : List (String × Schema))
      (s : Session) (fields : List (Field Ty)) (t : Session)
  /-- The registration of a component. -/
  | component (name : String) (s : Session) (type : Ty) (t : Session)
  /-- The schema of a component under its name. -/
  | named (name : String) (schema : Schema) (s : Session) (type : Ty) (t : Session)
  /-- The type that a member gives to a merge. -/
  | source (type : Ty) (s : Session) (source : Ty) (t : Session)
  /-- The types that the members give to a merge. -/
  | sources (types : List Ty) (s : Session) (sources : List Ty) (t : Session)
  /-- The combination of the members of an `allOf`. -/
  | combined (facts : Facts) (name : Option String) (types : List Ty) (s : Session) (type : Ty)
      (t : Session)

/-- The derivations over the component schemas of a document. -/
inductive Derives (schemas : Node) : Judgement → Prop where
  | nilable {schema : Schema} {context : String} {s t : Session} {type : Ty}
      (inside : Derives schemas (.bare schema context s type t)) :
      Derives schemas (.schema schema context s (withNil schema.facts.nullable type) t)
  | scalar {schema : Schema} {context : String} {s : Session} {type : Ty}
      (kind : isScalarKind schema.facts.kind = true)
      (typed : Translation.scalar schema.facts = .ok type) :
      Derives schemas (.bare schema context s type s)
  | unresolved {schema : Schema} {context : String} {s : Session}
      (kind : schema.facts.kind = .reference)
      (nowhere : target? schemas schema.facts = .ok none) :
      Derives schemas (.bare schema context s (.unknown ("unresolved " ++ schema.facts.ref.plain))
        (reported s .unresolvedReference [schema.facts.ref.plain]))
  | reference {schema : Schema} {context name : String} {s t : Session} {known : Ty}
      {nilable : Bool} (kind : schema.facts.kind = .reference)
      (leads : target? schemas schema.facts = .ok (some name))
      (registered : Derives schemas (.component name s known t))
      (atUse : admitsNilAtUse schemas name = .ok nilable) :
      Derives schemas (.bare schema context s (referenceType nilable name) t)
  | untyped {schema : Schema} {context : String} {s : Session}
      (kind : schema.facts.kind = .array) (items : schema.items = none) :
      Derives schemas (.bare schema context s (.array (.unknown "untyped items")) s)
  | array {schema item : Schema} {context : String} {s t : Session} {type : Ty}
      (kind : schema.facts.kind = .array) (items : schema.items = some item)
      (inside : Derives schemas (.schema item (extend context "Item") s type t)) :
      Derives schemas (.bare schema context s (.array type) t)
  | openMap {schema : Schema} {context : String} {s : Session}
      (kind : schema.facts.kind = .object) (properties : schema.properties = [])
      (additional : schema.additional = none) :
      Derives schemas (.bare schema context s (.map (.unknown "any")) s)
  | map {schema value : Schema} {context : String} {s t : Session} {type : Ty}
      (kind : schema.facts.kind = .object) (properties : schema.properties = [])
      (additional : schema.additional = some value)
      (inside : Derives schemas (.schema value (extend context "Value") s type t)) :
      Derives schemas (.bare schema context s (.map type) t)
  | record {schema : Schema} {s t : Session} {fields : List (Field Ty)} {text : String}
      (kind : schema.facts.kind = .object) (properties : schema.properties ≠ [])
      (inside : Derives schemas
        (.fields none schema.facts.required schema.properties s fields t))
      (described : strip schema.facts.description = .ok text) :
      Derives schemas (.bare schema "" s (.record none fields text) t)
  | hoistedBefore {schema : Schema} {context : String} {s : Session}
      (kind : schema.facts.kind = .object) (properties : schema.properties ≠ [])
      (contextual : context ≠ "")
      (before : isHoisted s context schema.facts.node.place = true) :
      Derives schemas (.bare schema context s (.reference context) s)
  | hoisted {schema : Schema} {context name : String} {s t : Session}
      {fields : List (Field Ty)} {text : String}
      (kind : schema.facts.kind = .object) (properties : schema.properties ≠ [])
      (contextual : context ≠ "")
      (anew : isHoisted s context schema.facts.node.place = false)
      (unique : s.registry.uniqueName context = name)
      (inside : Derives schemas (.fields (some name) schema.facts.required schema.properties
        (Run.begun (hoisting s name schema.facts.node.place) name) fields t))
      (described : strip schema.facts.description = .ok text) :
      Derives schemas (.bare schema context s (.reference name)
        (Run.finished t name (.record (some name) fields text)))
  | union {schema : Schema} {context : String} {s t : Session} {types : List Ty}
      (kind : schema.facts.kind = .union)
      (inside : Derives schemas (.each (unionParts context 1 schema.members) s types t)) :
      Derives schemas (.bare schema context s (.union none types) t)
  | allOf {schema : Schema} {context : String} {s t u : Session} {types : List Ty} {type : Ty}
      (kind : schema.facts.kind = .allOf)
      (inside : Derives schemas
        (.each (typedParts (mergeName context) 1 schema.members) s types t))
      (merge : Derives schemas (.combined schema.facts (mergeName context) types t type u)) :
      Derives schemas (.bare schema context s type u)
  | any {schema : Schema} {context : String} {s : Session}
      (kind : schema.facts.kind = .any) (undeclared : schema.facts.declaredType = none) :
      Derives schemas (.bare schema context s (.unknown "any") s)
  | unsupported {schema : Schema} {context declared : String} {s : Session}
      (kind : schema.facts.kind = .any) (typed : schema.facts.declaredType = some declared) :
      Derives schemas (.bare schema context s (.unknown ("unsupported type " ++ declared))
        (reported s .unsupportedSchema
          [if context == "" then "<inline>" else context, "type " ++ declared]))
  | eachNil {s : Session} : Derives schemas (.each [] s [] s)
  | eachCons {schema : Schema} {context : String} {parts : List (Schema × String)}
      {s t u : Session} {type : Ty} {types : List Ty}
      (head : Derives schemas (.schema schema context s type t))
      (tail : Derives schemas (.each parts t types u)) :
      Derives schemas (.each ((schema, context) :: parts) s (type :: types) u)
  | fieldsNil {name : Option String} {required : List Json} {s : Session} :
      Derives schemas (.fields name required [] s [] s)
  | fieldsCons {name : Option String} {required : List Json} {property text : String}
      {schema : Schema} {properties : List (String × Schema)} {s t u : Session} {type : Ty}
      {fields : List (Field Ty)}
      (head : Derives schemas (.schema schema (propertyContext name property) s type t))
      (described : describe schema.facts = .ok text)
      (tail : Derives schemas (.fields name required properties t fields u)) :
      Derives schemas (.fields name required ((property, schema) :: properties) s
        (fieldOf required property schema type text :: fields) u)
  | known {name : String} {s : Session} {type : Ty}
      (found : s.registry.enter name = .inl type) :
      Derives schemas (.component name s type s)
  | built {name : String} {schema : Schema} {s t : Session} {type : Ty}
      (fresh : s.registry.contains name = false)
      (parsed : componentSchema schemas name = .ok schema)
      (inside : Derives schemas (.named name schema (Run.begun s name) type t)) :
      Derives schemas (.component name s type (Run.finished t name type))
  | namedRecord {name text : String} {schema : Schema} {s t : Session}
      {fields : List (Field Ty)}
      (kind : schema.facts.kind = .object) (properties : schema.properties ≠ [])
      (inside : Derives schemas
        (.fields (some name) schema.facts.required schema.properties s fields t))
      (described : strip schema.facts.description = .ok text) :
      Derives schemas (.named name schema s (.record (some name) fields text) t)
  | namedMerge {name : String} {schema : Schema} {s t u : Session} {types : List Ty} {type : Ty}
      (kind : schema.facts.kind = .allOf)
      (inside : Derives schemas (.each (typedParts (some name) 1 schema.members) s types t))
      (merge : Derives schemas (.combined schema.facts (some name) types t type u)) :
      Derives schemas (.named name schema s type u)
  | namedUnion {name : String} {schema : Schema} {s t : Session} {types : List Ty}
      (kind : schema.facts.kind = .union)
      (inside : Derives schemas (.each (numberedParts name schema.members) s types t)) :
      Derives schemas (.named name schema s (namedUnion name schema.facts.nullable types) t)
  | namedOther {name : String} {schema : Schema} {s t : Session} {type : Ty}
      (record : schema.facts.kind = .object → schema.properties = [])
      (merge : schema.facts.kind ≠ .allOf) (union : schema.facts.kind ≠ .union)
      (inside : Derives schemas (.schema schema name s type t)) :
      Derives schemas (.named name schema s type t)
  | settled {type : Ty} {s : Session}
      (stays : ∀ name, s.registry.resolve (bareMember type) = .reference name →
        ¬ Rebuilds schemas s name) :
      Derives schemas (.source type s (s.registry.resolve (bareMember type)) s)
  | rebuilt {name : String} {schema : Schema} {type source : Ty} {s t : Session}
      (meets : s.registry.resolve (bareMember type) = .reference name)
      (rebuilds : Rebuilds schemas s name)
      (parsed : componentSchema schemas name = .ok schema)
      (inside : Derives schemas
        (.named name schema { s with rebuilding := name :: s.rebuilding } source t)) :
      Derives schemas (.source type s source
        { t with rebuilding := t.rebuilding.filter (· != name) })
  | sourcesNil {s : Session} : Derives schemas (.sources [] s [] s)
  | sourcesCons {type source : Ty} {types sources : List Ty} {s t u : Session}
      (head : Derives schemas (.source type s source t))
      (tail : Derives schemas (.sources types t sources u)) :
      Derives schemas (.sources (type :: types) s (source :: sources) u)
  | merged {facts : Facts} {name : Option String} {types sources : List Ty} {s t : Session}
      {text : String}
      (inside : Derives schemas (.sources types s sources t))
      (records : mergeable sources = true) (described : strip facts.description = .ok text) :
      Derives schemas (.combined facts name types s (.record name (mergeFields sources) text) t)
  | wrapped {facts : Facts} {name : Option String} {only : Ty} {sources : List Ty}
      {s t : Session}
      (inside : Derives schemas (.sources [only] s sources t))
      (mixed : mergeable sources = false) :
      Derives schemas (.combined facts name [only] s (.union name [only]) t)
  | refused {facts : Facts} {name : Option String} {types sources : List Ty} {s t : Session}
      (inside : Derives schemas (.sources types s sources t))
      (mixed : mergeable sources = false) (several : types.length ≠ 1) :
      Derives schemas (.combined facts name types s (.unknown "unsupported allOf")
        (reported t .unsupportedCombinator [match name with
          | some name => if name == "" then "<inline>" else name
          | none => "<inline>"]))

end TypedContract.Translation
