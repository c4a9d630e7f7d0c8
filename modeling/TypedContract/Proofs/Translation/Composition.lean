/-
# TypedContract.Proofs.Translation.Composition -- what an allOf of records is merged to

An `allOf` is composed of records if each typed member is an object with properties, a
reference to a component that is one, or such an `allOf` again, in place or as a component
(`Composed`).  Where no way from it leads around a cycle, its merge meets no component in
progress: a member that referred to one would be led back to by it (`Led`).  So every member
stands for a record that is already there, whatever nil was wrapped around it, and nothing is
built anew or reported.

What the record holds is told by the schemas (`Contributes`): an object gives the fields of its
properties, a reference those that its component is registered with, and an `allOf` those of
its members put together (`PutTogether`): each name once, where it was given first, and with
the field that was given last.  The induction is on the composition of the schema; the
registered components on the way are entered through what reached them.
-/
import TypedContract.Proofs.Translation.Ancestry
import TypedContract.Proofs.Translation.Merging
import TypedContract.Proofs.Translation.Order

namespace TypedContract

set_option autoImplicit false

open Relation (ReflTransGen TransGen)

namespace Translation

open Schema

variable {schemas : Node} {number : Nat} {contract : Json} {final s t u : Session}
  {schema : Schema} {context name : String} {type : Ty} {types : List Ty}
  {fields : List (Field Ty)} {parts : List (List (Field Ty))}

/-! ## Compositions -/

/-- No way from the component leads around a cycle. -/
def AcyclicFrom (schemas : Node) (name : String) : Prop :=
  ∀ other, ReflTransGen (PointsTo schemas) name other → ¬ TransGen (PointsTo schemas) other other

theorem AcyclicFrom.pointsTo {other : String} (acyclic : AcyclicFrom schemas name)
    (points : PointsTo schemas name other) : AcyclicFrom schemas other :=
  fun last way => acyclic last (.head points way)

/-- Names that only lead to one another, in falling ranks, lead around no cycle. -/
theorem acyclicFrom_of_rank {region : List String} (rank : String → Nat)
    (falls : ∀ name ∈ region, ∀ other ∈ pointed schemas name,
      other ∈ region ∧ rank other < rank name) (inside : name ∈ region) :
    AcyclicFrom schemas name := by
  have stays : ∀ {last}, ReflTransGen (PointsTo schemas) name last → last ∈ region := by
    intro last way
    induction way with
    | refl => exact inside
    | tail _ points ih => exact (falls _ ih _ (mem_pointed_iff.2 points)).1
  have descends : ∀ {first last}, first ∈ region → TransGen (PointsTo schemas) first last →
      last ∈ region ∧ rank last < rank first := by
    intro first last here way
    induction way with
    | single points => exact falls _ here _ (mem_pointed_iff.2 points)
    | tail _ points ih =>
        obtain ⟨middle, lower⟩ := falls _ ih.1 _ (mem_pointed_iff.2 points)
        exact ⟨middle, lower.trans ih.2⟩
  exact fun last way cycle => lt_irrefl _ (descends (stays way) cycle).2

/-- Schemas that are composed of records: objects with properties, references to components
that are such a schema in their own right, and `allOf`s of such members. -/
inductive Composed (schemas : Node) : Schema → Prop where
  | object {schema : Schema} (kind : schema.facts.kind = .object)
      (properties : schema.properties ≠ []) : Composed schemas schema
  | reference {schema component : Schema} {name : String} (refers : RefersTo schemas schema name)
      (parsed : componentSchema schemas name = .ok component)
      (own : component.facts.kind ≠ .reference) (inside : Composed schemas component) :
      Composed schemas schema
  | allOf {schema : Schema} (kind : schema.facts.kind = .allOf)
      (typed : schema.members.filter (!·.isNote) ≠ [])
      (each : ∀ member ∈ schema.members.filter (!·.isNote), Composed schemas member) :
      Composed schemas schema

/-- Looks for a composition of no more than the given depth. -/
def composedWithin (schemas : Node) : Nat → Schema → Bool
  | 0, _ => false
  | bound + 1, schema =>
      match schema.facts.kind with
      | .object => !schema.properties.isEmpty
      | .reference =>
          match (referred? schemas schema).map (componentSchema schemas) with
          | some (.ok component) =>
              component.facts.kind != .reference && composedWithin schemas bound component
          | _ => false
      | .allOf =>
          let typed := schema.members.filter (!·.isNote)
          !typed.isEmpty && typed.all (composedWithin schemas bound)
      | _ => false

theorem composed_of_within {bound : Nat} (found : composedWithin schemas bound schema = true) :
    Composed schemas schema := by
  induction bound generalizing schema with
  | zero => cases found
  | succ bound ih =>
      unfold composedWithin at found
      split at found
      · rename_i kind
        exact .object kind (by simpa using found)
      · split at found
        · rename_i component leads
          obtain ⟨name, refers, parsed⟩ := Option.map_eq_some_iff.1 leads
          rw [Bool.and_eq_true, bne_iff_ne] at found
          exact .reference (referred?_eq_some_iff.1 refers) parsed found.1 (ih found.2)
        · cases found
      · rename_i kind
        rw [Bool.and_eq_true, List.all_eq_true] at found
        exact .allOf kind (by simpa using found.1) fun member among => ih (found.2 member among)
      · cases found

/-! ## The fields that a composition gives -/

/-- By the session, the field was made from the property of an object with that list of
required names. -/
def MadeFrom (schemas : Node) (t : Session) (required : List Json) (property : String × Schema)
    (field : Field Ty) : Prop :=
  ∃ context type text, Became schemas t property.2 context type ∧
    describe property.2.facts = .ok text ∧
    field = fieldOf required property.1 property.2 type text

/-- The fields are those of the parts one after the other: each name once, in the order of
first appearance, with the last field of that name. -/
structure PutTogether (parts : List (List (Field Ty))) (fields : List (Field Ty)) : Prop where
  names : fields.map Field.name = (parts.flatten.map Field.name).eraseDups
  last : ∀ field ∈ fields, latest field.name parts.flatten = some field

theorem putTogether_assemble : PutTogether parts (assemble parts.flatten) :=
  ⟨names_assemble _, fun _ member => mem_assemble_iff.1 member⟩

/-- By the session, a composed schema contributes the fields. -/
inductive Contributes (schemas : Node) (t : Session) : Schema → List (Field Ty) → Prop where
  | object {schema : Schema} {fields : List (Field Ty)} (kind : schema.facts.kind = .object)
      (made : List.Forall₂ (MadeFrom schemas t schema.facts.required) schema.properties fields) :
      Contributes schemas t schema fields
  | reference {schema component : Schema} {name text : String} {fields : List (Field Ty)}
      (refers : RefersTo schemas schema name)
      (parsed : componentSchema schemas name = .ok component)
      (found : t.registry.get? name = some (.record (some name) fields text))
      (inside : Contributes schemas t component fields) : Contributes schemas t schema fields
  | allOf {schema : Schema} {parts : List (List (Field Ty))} {fields : List (Field Ty)}
      (kind : schema.facts.kind = .allOf)
      (each : List.Forall₂ (Contributes schemas t) (schema.members.filter (!·.isNote)) parts)
      (together : PutTogether parts fields) : Contributes schemas t schema fields

/-- The properties of an object have become its fields. -/
theorem Derives.madeFrom {record : Option String} {required : List Json}
    {properties : List (String × Schema)}
    (derived : Derives schemas (.fields record required properties s fields t))
    (before : t.Before final) : List.Forall₂ (MadeFrom schemas final required) properties fields := by
  induction properties generalizing s fields with
  | nil =>
      cases derived
      exact .nil
  | cons property rest ih =>
      cases derived with
      | fieldsCons head described tail =>
          have became := tail.grows.before.trans before
          exact .cons ⟨_, _, _, ⟨_, _, head, became⟩, described, rfl⟩ (ih tail)

/-! ## Members that stand for records -/

/-- From the session on, a merge takes the type for a record of the fields. -/
def TakenFor (t : Session) (type : Ty) (fields : List (Field Ty)) : Prop :=
  ∃ record text, ∀ u : Session, t.Before u →
    u.registry.resolve (bareMember type) = .record record fields text

theorem TakenFor.later (takenFor : TakenFor s type fields) (before : s.Before t) :
    TakenFor t type fields := by
  obtain ⟨record, text, resolved⟩ := takenFor
  exact ⟨record, text, fun u after => resolved u (before.trans after)⟩

/-- A record stands for itself, whatever nil is wrapped around it. -/
theorem takenFor_record {nullable : Bool} {record : Option String} {text : String} :
    TakenFor t (withNil nullable (.record record fields text)) fields := by
  refine ⟨record, text, fun u _ => ?_⟩
  rw [bareMember_record]
  rfl

/-- A reference to a registered record stands for it. -/
theorem takenFor_reference {nullable nilable : Bool} {record : Option String} {text : String}
    (found : t.registry.get? name = some (.record record fields text)) :
    TakenFor t (withNil nullable (referenceType nilable name)) fields := by
  refine ⟨record, text, fun u after => ?_⟩
  rw [bareMember_reference]
  exact Registry.resolve_reference (after.get? found) rfl

/-- What a merge takes for the types when it builds nothing anew. -/
def taken (s : Session) (types : List Ty) : List Ty :=
  types.map fun type => s.registry.resolve (bareMember type)

section

variable (each : List.Forall₂ (TakenFor s) types parts)

include each

theorem mergeable_taken (some_ : types ≠ []) : mergeable (taken s types) = true := by
  have records : (taken s types).all Ty.isRecord = true := by
    simp only [taken, List.all_map, List.all_eq_true]
    intro type member
    obtain ⟨fields, -, record, text, resolved⟩ := exists_of_forall₂_left each member
    rw [Function.comp_apply, resolved s (.refl s)]
    rfl
  rw [mergeable, records]
  simp [taken, some_]

theorem mergeFields_taken : mergeFields (taken s types) = assemble parts.flatten := by
  have fields : (taken s types).flatMap recordFields = parts.flatten := by
    induction each with
    | nil => rfl
    | cons first rest ih =>
        obtain ⟨record, text, resolved⟩ := first
        rw [taken, List.map_cons, List.flatMap_cons, List.flatten_cons, resolved s (.refl s)]
        exact congrArg (_ ++ ·) ih
  rw [mergeFields_eq_assemble, fields]

/-- Where every type stands for a record, a merge builds nothing anew. -/
theorem Derives.eq_taken {sources : List Ty}
    (derived : Derives schemas (.sources types s sources t)) : s = t ∧ sources = taken s types := by
  induction each generalizing t sources with
  | nil =>
      cases derived
      exact ⟨rfl, rfl⟩
  | cons first rest ih =>
      obtain ⟨record, text, resolved⟩ := first
      cases derived with
      | sourcesCons head tail =>
          cases head with
          | settled stays =>
              obtain ⟨rfl, rfl⟩ := ih tail
              exact ⟨rfl, rfl⟩
          | rebuilt meets => cases (resolved s (.refl s)).symm.trans meets

/-- The combination of such types is the record of all their fields. -/
theorem Derives.combined_of_takenFor {facts : Facts} {merge : Option String}
    (derived : Derives schemas (.combined facts merge types s type t)) (some_ : types ≠ []) :
    s = t ∧ ∃ text, type = .record merge (assemble parts.flatten) text ∧
      strip facts.description = .ok text := by
  cases derived with
  | merged inside records described =>
      obtain ⟨rfl, rfl⟩ := inside.eq_taken each
      rw [mergeFields_taken each]
      exact ⟨rfl, _, rfl, described⟩
  | wrapped inside mixed | refused inside mixed =>
      obtain ⟨rfl, rfl⟩ := inside.eq_taken each
      cases mixed.symm.trans (mergeable_taken each some_)

theorem returns_taken {ties : Ties} :
    Run.Returns (types.mapM (mergeSource ties)) s (taken s types) s := by
  induction each with
  | nil => exact Run.returns_pure.2 ⟨rfl, rfl⟩
  | @cons type fields types parts first rest ih =>
      obtain ⟨record, text, resolved⟩ := first
      have own : Run.Returns (mergeSource ties type) s (s.registry.resolve (bareMember type)) s := by
        refine returns_mergeSource.2 (.inl ⟨fun name meets => ?_, rfl, rfl⟩)
        cases (resolved s (.refl s)).symm.trans meets
      rw [List.mapM_cons]
      exact Run.returns_bind.2 ⟨_, s, own, Run.returns_bind.2 ⟨_, s, ih,
        Run.returns_pure.2 ⟨rfl, rfl⟩⟩⟩

/-- Combining such types returns the record of all their fields and leaves the session as it
is: nothing is built anew and nothing is reported. -/
theorem returns_combine {ties : Ties} {facts : Facts} {merge : Option String} {text : String}
    (some_ : types ≠ []) (described : strip facts.description = .ok text) :
    Run.Returns (combine ties facts merge types) s (.record merge (assemble parts.flatten) text) s := by
  have merges : (!(taken s types).isEmpty && (taken s types).all Ty.isRecord) = true :=
    mergeable_taken each some_
  unfold combine
  refine Run.returns_bind.2 ⟨_, s, returns_taken each, ?_⟩
  rw [if_pos merges, mergeFields_taken each]
  exact Run.returns_bind.2 ⟨text, s, Run.returns_lift.2 ⟨described, rfl⟩,
    Run.returns_pure.2 ⟨rfl, rfl⟩⟩

end

/-! ## What compositions come to -/

/-- All that the schema mentions lies ahead: it is led to, and no way from there leads around
a cycle. -/
def Ahead (schemas : Node) (s : Session) (schema : Schema) : Prop :=
  ∀ name, Mentions schemas schema name → Led schemas s name ∧ AcyclicFrom schemas name

theorem Ahead.child {inner : Schema} (ahead : Ahead schemas s schema) (child : Child schema inner) :
    Ahead schemas s inner :=
  fun name mentions => ahead name (.child child mentions)

theorem Ahead.grows (ahead : Ahead schemas s schema) (grows : s.Grows t) : Ahead schemas t schema :=
  fun name mentions => ⟨(ahead name mentions).1.grows grows, (ahead name mentions).2⟩

/-- What the schema of a component mentions lies ahead when the component begins. -/
theorem ahead_begun (led : Led schemas s name) (acyclic : AcyclicFrom schemas name)
    (parsed : componentSchema schemas name = .ok schema) :
    Ahead schemas (Run.begun s name) schema := by
  intro other mentions
  have points := mentions.pointsTo parsed
  exact ⟨led.begun points, acyclic.pointsTo points⟩

/-- A composed schema contributes what its type is taken for, as a part that lies ahead and as
a component. -/
structure Composes (schemas : Node) (final : Session) (schema : Schema) : Prop where
  part : ∀ {context s type t}, Derives schemas (.schema schema context s type t) →
    t.Before final → Ahead schemas s schema → (schema.facts.kind = .object → context = "") →
    ∃ fields, Contributes schemas final schema fields ∧ TakenFor t type fields
  component : ∀ {name s type t}, BuildsComponent schemas name schema s type t →
    (Run.finished t name type).Before final → Led schemas s name → AcyclicFrom schemas name →
    schema.facts.kind ≠ .reference →
    ∃ fields text, Contributes schemas final schema fields ∧ type = .record (some name) fields text

/-- An inline object is a record in place, and a component is one of its name. -/
theorem composes_object (kind : schema.facts.kind = .object) (properties : schema.properties ≠ []) :
    Composes schemas final schema := by
  constructor
  · intro context s type t derived before _ plain
    obtain ⟨inner, rfl, bare⟩ := derived.of_schema
    rcases bare.of_object kind properties with ⟨-, fields, text, rfl, -, inside⟩ |
      ⟨contextual, -⟩ | ⟨_, _, _, _, contextual, -⟩
    · exact ⟨fields, .object kind (inside.madeFrom before), takenFor_record⟩
    · exact absurd (plain kind) contextual
    · exact absurd (plain kind) contextual
  · intro name s type t builds before _ _ _
    obtain ⟨fields, text, rfl, -, inside⟩ := builds.inside.named_object kind properties
    exact ⟨fields, text, .object kind (inside.madeFrom (builds.before.trans before)), rfl⟩

/-- The component that a reference leads to is not in progress, so it is registered. -/
theorem composes_reference (reached : AllReached schemas final) {component : Schema} {name : String}
    (refers : RefersTo schemas schema name) (parsed : componentSchema schemas name = .ok component)
    (own : component.facts.kind ≠ .reference) (composes : Composes schemas final component) :
    Composes schemas final schema := by
  constructor
  · intro context s type t derived before ahead _
    obtain ⟨led, acyclic⟩ := ahead name (.self refers)
    obtain ⟨inner, rfl, bare⟩ := derived.of_schema
    rcases bare.of_reference refers.1 with ⟨nowhere, -⟩ |
      ⟨other, known, nilable, leads, registered, -, rfl⟩
    · cases nowhere.symm.trans refers.2
    · cases leads.symm.trans refers.2
      obtain ⟨type, found⟩ : ∃ type, t.registry.get? name = some type := by
        refine (Registry.contains_iff.1 registered.contains).resolve_right fun building => ?_
        have earlier : name ∈ s.registry.building := registered.grows.building ▸ building
        exact acyclic name .refl (led name earlier (holds_of_componentSchema parsed))
      obtain ⟨s', u, builds, led', last⟩ := reached.exists_builds (before.get? found) parsed
      obtain ⟨fields, text, contributes, rfl⟩ := composes.component builds last led' acyclic own
      exact ⟨fields, .reference refers parsed (before.get? found) contributes,
        takenFor_reference found⟩
  · exact fun _ _ _ _ apart => absurd refers.1 apart

/-- Parts that compose contribute what their types are taken for. -/
theorem Derives.exists_parts {list : List (Schema × String)}
    (derived : Derives schemas (.each list s types t)) (before : t.Before final)
    (composes : ∀ part ∈ list, Composes schemas final part.1)
    (ahead : ∀ part ∈ list, Ahead schemas s part.1)
    (plain : ∀ part ∈ list, part.1.facts.kind = .object → part.2 = "") :
    ∃ parts, List.Forall₂ (fun part => Contributes schemas final part.1) list parts ∧
      List.Forall₂ (TakenFor t) types parts := by
  induction list generalizing s types with
  | nil =>
      cases derived
      exact ⟨[], .nil, .nil⟩
  | cons part rest ih =>
      obtain ⟨composes, others⟩ := List.forall_mem_cons.1 composes
      obtain ⟨aheadFirst, aheadRest⟩ := List.forall_mem_cons.1 ahead
      obtain ⟨plainFirst, plainRest⟩ := List.forall_mem_cons.1 plain
      cases derived with
      | eachCons head tail =>
          have later := tail.grows.before
          obtain ⟨fields, contributes, taken⟩ :=
            composes.part head (later.trans before) aheadFirst plainFirst
          obtain ⟨parts, contribute, takes⟩ := ih tail others
            (fun part among => (aheadRest part among).grows head.grows) plainRest
          exact ⟨fields :: parts, .cons contributes contribute, .cons (taken.later later) takes⟩

theorem memberContext_object {merge : Option String} {i : Nat} :
    memberContext merge i .object = "" := by
  cases merge <;> simp [memberContext]

/-- The typed members of an `allOf` merge to the record of what they contribute. -/
theorem Derives.exists_merged {facts : Facts} {members : List Schema} {merge : Option String}
    (each : Derives schemas (.each (typedParts merge 1 members) s types u))
    (combined : Derives schemas (.combined facts merge types u type t)) (before : t.Before final)
    (typed : members.filter (!·.isNote) ≠ [])
    (composes : ∀ member ∈ members.filter (!·.isNote), Composes schemas final member)
    (ahead : ∀ member ∈ members, Ahead schemas s member) :
    ∃ parts text, List.Forall₂ (Contributes schemas final) (members.filter (!·.isNote)) parts ∧
      List.Forall₂ (TakenFor u) types parts ∧ types ≠ [] ∧ u = t ∧
      type = .record merge (assemble parts.flatten) text ∧ strip facts.description = .ok text := by
  have middle := combined.grows.before.trans before
  have inside : ∀ part ∈ typedParts merge 1 members, part.1 ∈ members.filter (!·.isNote) := by
    intro part among
    rw [← map_fst_typedParts]
    exact List.mem_map_of_mem among
  have plain : ∀ part ∈ typedParts merge 1 members, part.1.facts.kind = .object → part.2 = "" := by
    intro part among kind
    obtain ⟨numbered, -, rfl⟩ := List.mem_map.1 among
    exact (congrArg (memberContext merge numbered.2) kind).trans memberContext_object
  obtain ⟨parts, contribute, taken⟩ := each.exists_parts middle
    (fun part among => composes _ (inside part among))
    (fun part among => ahead _ (List.mem_filter.1 (inside part among)).1) plain
  rw [← List.forall₂_map_left_iff, map_fst_typedParts] at contribute
  have some_ : types ≠ [] := by
    rintro rfl
    cases taken
    exact typed (List.forall₂_nil_right_iff.1 contribute)
  obtain ⟨rfl, text, rfl, described⟩ := combined.combined_of_takenFor taken some_
  exact ⟨parts, text, contribute, taken, some_, rfl, rfl, described⟩

theorem composes_allOf (kind : schema.facts.kind = .allOf)
    (typed : schema.members.filter (!·.isNote) ≠ [])
    (each : ∀ member ∈ schema.members.filter (!·.isNote), Composes schemas final member) :
    Composes schemas final schema := by
  constructor
  · intro context s type t derived before ahead _
    obtain ⟨inner, rfl, bare⟩ := derived.of_schema
    obtain ⟨types, u, inside, combined⟩ := bare.of_allOf kind
    obtain ⟨parts, text, contribute, -, -, -, rfl, -⟩ := inside.exists_merged combined before typed each
      fun member among => ahead.child (.member among)
    exact ⟨_, .allOf kind contribute putTogether_assemble, takenFor_record⟩
  · intro name s type t builds before led acyclic _
    obtain ⟨types, u, inside, combined⟩ := builds.inside.named_allOf kind
    obtain ⟨parts, text, contribute, -, -, -, rfl, -⟩ := inside.exists_merged combined
      (builds.before.trans before) typed each
      fun member among => (ahead_begun led acyclic builds.parsed).child (.member among)
    exact ⟨_, text, .allOf kind contribute putTogether_assemble, rfl⟩

/-- Whatever is composed of records contributes what its type is taken for. -/
theorem Composed.composes (reached : AllReached schemas final) (composed : Composed schemas schema) :
    Composes schemas final schema := by
  induction composed with
  | object kind properties => exact composes_object kind properties
  | reference refers parsed own inside ih => exact composes_reference reached refers parsed own ih
  | allOf kind typed each ih => exact composes_allOf kind typed ih

end Translation

namespace Translator

open Translation

variable {number : Nat} {contract : Json} {translator : Translator} {s : Session}

/-- Where nothing is in progress, a component of well-typed schemas comes back, and nothing is in
progress then. -/
theorem exists_component {schemas : Node} (typed : WellTyped schemas) {name : String}
    (held : schemas.value.holds name = .ok true)
    (idle : s.registry.building = []) (quiet : s.rebuilding = []) :
    ∃ type t, Run.Returns ((Ties.within schemas (componentBound schemas)).component name) s type t ∧
      t.registry.building = [] ∧ t.rebuilding = [] := by
  obtain ⟨type, t, grows, returns⟩ := typed.exists_component held s
  exact ⟨type, t, returns _ (Nat.le_refl _), grows.building.trans idle,
    grows.rebuilding.trans quiet⟩

/-- So they come back one by one. -/
theorem exists_forM_component {schemas : Node} (typed : WellTyped schemas)
    {names : List String} (held : ∀ name ∈ names, schemas.value.holds name = .ok true)
    (idle : s.registry.building = []) (quiet : s.rebuilding = []) :
    ∃ t, Run.Returns ((names.map Json.str).forM fun name => do
      let _ ← (Ties.within schemas (componentBound schemas)).component (← Run.lift name.text))
        s () t := by
  induction names generalizing s with
  | nil => exact ⟨s, Run.returns_forM_nil.2 rfl⟩
  | cons name rest ih =>
      obtain ⟨first, others⟩ := List.forall_mem_cons.1 held
      obtain ⟨type, u, own, idle', quiet'⟩ := exists_component typed first idle quiet
      obtain ⟨t, returned⟩ := ih others idle' quiet'
      refine ⟨t, Run.returns_forM_cons.2 ⟨(), u, ?_, returned⟩⟩
      simp only [Run.returns_bind, Run.returns_lift, Run.returns_pure]
      exact ⟨name, s, ⟨rfl, rfl⟩, type, u, own, trivial, rfl⟩

/-- Component schemas of the right shape are all registered. -/
theorem exists_registerAll {document schemas : Node}
    (found : Contract.schemas document = .ok schemas)
    (fits : schemas.value.fits (.mapOf .schema) = true) :
    ∃ translator t, Run.Returns (registerAll document) {} translator t := by
  have typed := Contract.wellTyped found fits
  obtain ⟨entries, object⟩ := typed.object
  obtain ⟨t, created⟩ := exists_create found typed.object {}
  obtain ⟨-, -, names, -, made⟩ := returns_create created
  have held : ∀ name ∈ entries.map Prod.fst, schemas.value.holds name = .ok true := by
    intro name member
    obtain ⟨entry, inside, rfl⟩ := List.mem_map.1 member
    obtain ⟨value, here⟩ := Json.exists_find? inside
    rw [object, Json.holds, here]
    rfl
  obtain ⟨u, registered⟩ := exists_forM_component typed held (s := t) (made ▸ rfl) (made ▸ rfl)
  have listed : schemas.value.elements = .ok ((entries.map Prod.fst).map Json.str) := by
    rw [object, List.map_map]
    rfl
  have all : Run.Returns (components ⟨Ties.within schemas (componentBound schemas)⟩) t () u := by
    refine Run.returns_bind.2 ⟨_, t, Run.returns_lift.2 ⟨?_, rfl⟩, registered⟩
    rwa [Translator.schemas, (Ties.within_sound schemas _).same]
  exact ⟨_, u, Run.returns_bind.2 ⟨_, t, created,
    Run.returns_bind.2 ⟨(), u, all, Run.returns_pure.2 ⟨rfl, rfl⟩⟩⟩⟩

/-- The components of a document are registered in every session of its translator. -/
theorem SessionOf.registered (stands : SessionOf number contract translator s) :
    Contract.schemas (.root number contract) = .ok translator.schemas ∧
      ∀ name, translator.schemas.value.holds name = .ok true →
        ∃ type, s.registry.get? name = some type := by
  induction stands with
  | components fresh new created registered =>
      have object := object_of_components created registered
      have idle := (SessionOf.components fresh new created registered).ended.idle
      exact ⟨(returns_create created).1, fun name held =>
        registered_components (sound_create created) object registered idle held⟩
  | translated earlier stands returned ih =>
      obtain ⟨schema, -, derived⟩ := derives_translateNode earlier.sound returned
      obtain ⟨same, registered⟩ := ih
      refine ⟨same, fun name held => ?_⟩
      obtain ⟨type, found⟩ := registered name held
      exact ⟨type, derived.grows.before.get? found⟩

/-- The members of the component were translated and combined to the type, and combining them
did nothing to the session. -/
def CombinedQuietly (translator : Translator) (s : Session) (name : String) (schema : Schema)
    (type : Ty) : Prop :=
  ∃ u types v, BuildsComponent translator.schemas name schema u type v ∧
    Derives translator.schemas
      (.each (typedParts (some name) 1 schema.members) (Run.begun u name) types v) ∧
    Run.Returns (combine translator.ties schema.facts (some name) types) v type v ∧
    (Run.finished v name type).Before s

/-- A component that is composed of records, and from which no way leads around a cycle, is
registered as the record of its name: its fields are those that its typed members contribute,
put together.  Combining the members leaves the session as it is, so nothing is reported.  All
components of a document are registered whenever their schemas have the shape of schemas. -/
theorem registered_composed {schemas : Node}
    (found : Contract.schemas (.root number contract) = .ok schemas) {name : String}
    {schema : Schema} (parsed : componentSchema schemas name = .ok schema)
    (kind : schema.facts.kind = .allOf) (composed : Composed schemas schema)
    (acyclic : AcyclicFrom schemas name) :
    (schemas.value.fits (.mapOf .schema) = true → ∃ translator s,
      Run.Returns (registerAll (.root number contract)) {} translator s ∧
      SessionOf number contract translator s) ∧
    ∀ translator s, SessionOf number contract translator s → ∃ parts fields text,
      s.registry.get? name = some (.record (some name) fields text) ∧
      List.Forall₂ (Contributes schemas s) (schema.members.filter (!·.isNote)) parts ∧
      PutTogether parts fields ∧
      CombinedQuietly translator s name schema (.record (some name) fields text) := by
  refine ⟨fun fits => ?_, fun translator s stands => ?_⟩
  · obtain ⟨translator, s, returned⟩ := exists_registerAll found fits
    obtain ⟨u, done, created, registered⟩ := returns_registerAll returned
    exact ⟨translator, s, returned, .components rfl rfl created registered⟩
  obtain ⟨same, registered⟩ := stands.registered
  cases found.symm.trans same
  obtain ⟨type, here⟩ := registered name (holds_of_componentSchema parsed)
  have reached := stands.reached
  obtain ⟨u, v, builds, led, before⟩ := reached.exists_builds here parsed
  obtain ⟨types, w, inside, combined⟩ := builds.inside.named_allOf kind
  cases composed with
  | object other => cases kind.symm.trans other
  | reference refers => cases kind.symm.trans refers.1
  | allOf _ typed each =>
      obtain ⟨parts, text, contribute, taken, some_, rfl, rfl, described⟩ :=
        inside.exists_merged combined (builds.before.trans before) typed
          (fun member among => (each member among).composes reached)
          fun member among => (ahead_begun led acyclic parsed).child (.member among)
      exact ⟨parts, _, text, here, contribute, putTogether_assemble, u, types, w, builds, inside,
        returns_combine taken some_ described, before⟩

/-- A component that points to itself and to an `allOf`: of a component that admits nothing,
with one of its fields in another type, of a note, of an inline object and of an inline
`allOf`. -/
def nestingComponents : List (String × Json) := [
  ("Loop", record [("self", reference "Loop"), ("top", reference "Top")] []),
  ("Top", .object [("nullable", .bool true), ("allOf", .list [reference "Middle",
    .object [("description", .str "a note")], record [("tag", typed "string")] [],
    .object [("allOf", .list [record [("id", typed "integer")] []])]])]),
  ("Middle", .object [("allOf", .list [reference "Base", record [("name", typed "integer")] []])]),
  ("Base", record [("id", typed "string"), ("name", typed "string")] [("nullable", .bool true)])]
where
  /-- A reference to a component. -/
  reference (name : String) : Json := .object [("$ref", .str (Schema.componentPath ++ name))]
  /-- A schema of a type. -/
  typed (type : String) : Json := .object [("type", .str type)]
  /-- An object with properties and more entries. -/
  record (properties more : List (String × Json)) : Json :=
    .object ([("type", .str "object"), ("properties", .object properties)] ++ more)

/-- The component schemas of that document. -/
def nestingSchemas : Node := ⟨.object nestingComponents, some ⟨0, [0, 0]⟩⟩

/-- From the `allOf` the way leads down, although the document has a cycle. -/
theorem acyclicFrom_nesting : AcyclicFrom nestingSchemas "Top" :=
  @acyclicFrom_of_rank nestingSchemas "Top" ["Top", "Middle", "Base"]
    (fun name => if name = "Top" then 2 else if name = "Middle" then 1 else 0)
    (by decide +kernel) (by decide)

theorem registered_composed_nesting : ∃ schema translator s fields text,
    componentSchema nestingSchemas "Top" = .ok schema ∧ Composed nestingSchemas schema ∧
    Run.Returns (registerAll (.root 0 (contractOf nestingComponents))) {} translator s ∧
    s.registry.get? "Top" = some (.record (some "Top") fields text) ∧
    fields.map Field.name = ["id", "name", "tag"] := by
  have found : Contract.schemas (.root 0 (contractOf nestingComponents)) = .ok nestingSchemas := rfl
  have composes : ((componentSchema nestingSchemas "Top").toOption.any fun schema =>
      schema.facts.kind == .allOf && composedWithin nestingSchemas 5 schema) = true := by
    decide +kernel
  obtain ⟨schema, parsed, left⟩ := (Option.any_eq_true ..).1 composes
  replace parsed := toOption_eq_some.1 parsed
  rw [Bool.and_eq_true, beq_iff_eq] at left
  obtain ⟨kind, within⟩ := left
  have ok : ((registerAll (.root 0 (contractOf nestingComponents))).passes {} fun _ t =>
      (t.registry.get? "Top").any fun type =>
        (recordFields type).map Field.name == ["id", "name", "tag"]) = true := by decide +kernel
  obtain ⟨translator, s, returned, left⟩ := Run.exists_returns_of ok
  obtain ⟨u, done, created, registered⟩ := returns_registerAll returned
  have composed := composed_of_within within
  obtain ⟨parts, fields, text, here, -⟩ :=
    (registered_composed found parsed kind composed acyclicFrom_nesting).2 translator s
      (.components rfl rfl created registered)
  rw [here, Option.any_some, beq_iff_eq] at left
  exact ⟨schema, translator, s, fields, text, parsed, composed, returned, here, left⟩

end Translator

end TypedContract
