/-
# TypedContract.Proofs.Translation.Registration -- what a translation registers

Two rules of derivations change what is registered: a component is built under its
name (`BuildsComponent`), and an inline record is hoisted to a name made from its context
(`HoistsRecord`).  A property of sessions that outlives both outlives every translation
(`Derives.keeps`), so an invariant of the registry needs two cases and no induction of
its own.

Three such invariants are derived here.  No two entries share a name
(`Derives.names_nodup`).  No name is given to two places and none that is given is
reserved (`Session.Orderly`).  Every entry has an origin (`Registered`).
-/
import TypedContract.Proofs.Translation.Chronicle

namespace TypedContract

set_option autoImplicit false

namespace Translation

variable {schemas : Node}

/-! ## The two ways to register -/

/-- The rule by which a component is built. -/
structure BuildsComponent (schemas : Node) (name : String) (schema : Schema) (s : Session) (type : Ty)
    (t : Session) : Prop where
  fresh : s.registry.contains name = false
  parsed : componentSchema schemas name = .ok schema
  inside : Derives schemas (.named name schema (Run.begun s name) type t)

/-- The rule by which an inline object is hoisted to a name. -/
structure HoistsRecord (schemas : Node) (schema : Schema) (context name : String) (s : Session)
    (fields : List (Field Ty)) (text : String) (t : Session) : Prop where
  kind : schema.facts.kind = .object
  properties : schema.properties ≠ []
  unique : s.registry.uniqueName context = name
  inside : Derives schemas (.fields (some name) schema.facts.required schema.properties
    (Run.begun (hoisting s name schema.facts.node.place) name) fields t)
  described : Schema.strip schema.facts.description = .ok text

section

variable {schema : Schema} {context name text : String} {s t : Session} {type : Ty}
  {fields : List (Field Ty)}

theorem BuildsComponent.before (builds : BuildsComponent schemas name schema s type t) :
    t.Before (Run.finished t name type) :=
  Session.Grows.before_finished builds.fresh builds.inside.grows

theorem BuildsComponent.entries (builds : BuildsComponent schemas name schema s type t) :
    (Run.finished t name type).registry.entries = t.registry.entries ++ [(name, type)] :=
  Session.Grows.entries_finished builds.fresh builds.inside.grows

theorem HoistsRecord.fresh (hoists : HoistsRecord schemas schema context name s fields text t) :
    (hoisting s name schema.facts.node.place).registry.contains name = false :=
  (hoisting_unused hoists.unique _).1

theorem HoistsRecord.free (hoists : HoistsRecord schemas schema context name s fields text t) :
    name ∉ s.registry.reserved :=
  (hoisting_unused hoists.unique schema.facts.node.place).2

theorem HoistsRecord.before (hoists : HoistsRecord schemas schema context name s fields text t) :
    t.Before (Run.finished t name type) :=
  Session.Grows.before_finished hoists.fresh hoists.inside.grows

theorem HoistsRecord.entries (hoists : HoistsRecord schemas schema context name s fields text t) :
    (Run.finished t name type).registry.entries = t.registry.entries ++ [(name, type)] :=
  Session.Grows.entries_finished hoists.fresh hoists.inside.grows

/-- The place that the name is given to is noted from the beginning. -/
theorem HoistsRecord.given (hoists : HoistsRecord schemas schema context name s fields text t) :
    (name, schema.facts.node.place) ∈ t.hoisted :=
  hoists.inside.grows.hoisted.subset List.mem_cons_self

end

/-! ## What sessions keep -/

/-- A property that components have and that a schema passes on to its children. -/
structure Inherited (schemas : Node) (fits : Schema → Prop) : Prop where
  component : ∀ {name schema}, componentSchema schemas name = .ok schema → fits schema
  item : ∀ {schema item}, fits schema → schema.items = some item → fits item
  value : ∀ {schema value}, fits schema → schema.additional = some value → fits value
  property : ∀ {schema name property}, fits schema → (name, property) ∈ schema.properties →
    fits property
  member : ∀ {schema member}, fits schema → member ∈ schema.members → fits member

theorem inherited_isPartOf {number : Nat} {contract : Json}
    (document : schemas.Stands number contract) :
    Inherited schemas (·.IsPartOf number contract) :=
  ⟨isPartOf_component document, fun stands => stands.item, fun stands => stands.value,
    fun stands => stands.property, fun stands => stands.member⟩

theorem inherited_true : Inherited schemas fun _ => True :=
  ⟨fun _ => trivial, fun _ _ => trivial, fun _ _ => trivial, fun _ _ => trivial,
    fun _ _ => trivial⟩

/-- The schemas of a part of a translation have a property. -/
def Judgement.SchemasHave (fits : Schema → Prop) : Judgement → Prop
  | .schema subject _ _ _ _ | .bare subject _ _ _ _ | .named _ subject _ _ _ => fits subject
  | .each parts _ _ _ => ∀ part ∈ parts, fits part.1
  | .fields _ _ properties _ _ _ => ∀ property ∈ properties, fits property.2
  | _ => True

theorem Judgement.schemasHave_true (judgement : Judgement) :
    judgement.SchemasHave fun _ => True := by
  cases judgement <;> simp [Judgement.SchemasHave]

/-- What outlives notes, the building of a component and the hoisting of a record outlives
every translation. -/
theorem Derives.keeps {keeps : Session → Prop} {fits : Schema → Prop} {judgement : Judgement}
    (derived : Derives schemas judgement) (inherited : Inherited schemas fits)
    (fit : judgement.SchemasHave fits) (start : keeps judgement.start)
    (noted : ∀ {s t : Session}, keeps s → t.registry = s.registry → t.hoisted = s.hoisted →
      keeps t)
    (built : ∀ {name schema s type t}, BuildsComponent schemas name schema s type t → keeps s →
      (keeps (Run.begun s name) → keeps t) → keeps (Run.finished t name type))
    (hoisted : ∀ {schema context name s fields text t}, fits schema →
      HoistsRecord schemas schema context name s fields text t → keeps s →
      (keeps (Run.begun (hoisting s name schema.facts.node.place) name) → keeps t) →
      keeps (Run.finished t name (.record (some name) fields text))) :
    keeps judgement.finish := by
  induction derived with simp only [Judgement.start, Judgement.finish, Judgement.SchemasHave] at *
  | nilable inside ih => exact ih fit start
  | scalar | untyped | openMap | hoistedBefore | any | eachNil | fieldsNil | known | settled
  | sourcesNil => exact start
  | unresolved | unsupported => exact noted start rfl rfl
  | reference kind leads registered atUse ih => exact ih trivial start
  | array kind items inside ih => exact ih (inherited.item fit items) start
  | map kind properties additional inside ih => exact ih (inherited.value fit additional) start
  | record kind properties inside described ih =>
      exact ih (fun property member => inherited.property fit member) start
  | hoisted kind properties contextual anew unique inside described ih =>
      exact hoisted fit ⟨kind, properties, unique, inside, described⟩ start
        (ih fun property member => inherited.property fit member)
  | union kind inside ih => exact ih (forall_unionParts fun _ => inherited.member fit) start
  | allOf kind inside merge ihInside ihMerge =>
      exact ihMerge trivial (ihInside (forall_typedParts fun _ => inherited.member fit) start)
  | eachCons head tail ihHead ihTail =>
      obtain ⟨first, rest⟩ := List.forall_mem_cons.1 fit
      exact ihTail rest (ihHead first start)
  | fieldsCons head described tail ihHead ihTail =>
      obtain ⟨first, rest⟩ := List.forall_mem_cons.1 fit
      exact ihTail rest (ihHead first start)
  | built fresh parsed inside ih =>
      exact built ⟨fresh, parsed, inside⟩ start (ih (inherited.component parsed))
  | namedRecord kind properties inside described ih =>
      exact ih (fun property member => inherited.property fit member) start
  | namedMerge kind inside merge ihInside ihMerge =>
      exact ihMerge trivial (ihInside (forall_typedParts fun _ => inherited.member fit) start)
  | namedUnion kind inside ih =>
      exact ih (forall_numberedParts fun _ => inherited.member fit) start
  | namedOther record merge union inside ih => exact ih fit start
  | rebuilt meets rebuilds parsed inside ih =>
      exact noted (ih (inherited.component parsed) (noted start rfl rfl)) rfl rfl
  | sourcesCons head tail ihHead ihTail => exact ihTail trivial (ihHead trivial start)
  | merged inside records described ih => exact ih trivial start
  | wrapped inside mixed ih => exact ih trivial start
  | refused inside mixed several ih => exact noted (ih trivial start) rfl rfl

end Translation

/-! ## Names and places -/

/-- No name is given to two places, and what is given to a place is held for it and not
reserved. -/
structure Session.Orderly (s : Session) : Prop where
  given : (s.hoisted.map Prod.fst).Nodup
  held : ∀ {name place}, (name, place) ∈ s.hoisted → s.registry.contains name = true
  free : ∀ {name place}, (name, place) ∈ s.hoisted → name ∉ s.registry.reserved

namespace Session.Orderly

variable {s t : Session} {name : String}

theorem of_new (new : s.hoisted = []) : s.Orderly := by
  have nowhere : ∀ {given}, given ∉ s.hoisted := fun member => by
    rw [new] at member
    cases member
  refine ⟨?_, fun member => absurd member nowhere, fun member => absurd member nowhere⟩
  rw [new]
  exact List.nodup_nil

/-- A name is given to one place. -/
theorem once (orderly : s.Orderly) {place place' : Option Place} (first : (name, place) ∈ s.hoisted)
    (second : (name, place') ∈ s.hoisted) : place = place' := by
  have same := List.inj_on_of_nodup_map orderly.given first second rfl
  exact congrArg Prod.snd same

theorem noted (orderly : s.Orderly) (registry : t.registry = s.registry)
    (hoisted : t.hoisted = s.hoisted) : t.Orderly := by
  refine ⟨?_, fun member => ?_, fun member => ?_⟩
  · rw [hoisted]
    exact orderly.given
  · rw [hoisted] at member
    rw [registry]
    exact orderly.held member
  · rw [hoisted] at member
    rw [registry]
    exact orderly.free member

theorem begun (orderly : s.Orderly) : (Run.begun s name).Orderly := by
  refine ⟨orderly.given, fun member => ?_, orderly.free⟩
  exact Registry.contains_start (orderly.held member)

theorem hoisting (orderly : s.Orderly) {place : Option Place}
    (fresh : s.registry.contains name = false) (free : name ∉ s.registry.reserved) :
    (Run.begun (Translation.hoisting s name place) name).Orderly := by
  have new : name ∉ s.hoisted.map Prod.fst := by
    intro member
    obtain ⟨⟨_, other⟩, given, rfl⟩ := List.mem_map.1 member
    rw [orderly.held given] at fresh
    cases fresh
  refine ⟨List.nodup_cons.2 ⟨new, orderly.given⟩, fun member => ?_, fun member => ?_⟩
  · rcases List.mem_cons.1 member with same | earlier
    · cases same
      exact Registry.contains_iff.2 (.inr List.mem_cons_self)
    · exact orderly.begun.held earlier
  · rcases List.mem_cons.1 member with same | earlier
    · cases same
      exact free
    · exact orderly.free earlier

theorem finished {type : Ty} (orderly : t.Orderly) (fresh : s.registry.contains name = false)
    (inside : (Run.begun s name).Grows t) : (Run.finished t name type).Orderly := by
  have before : t.Before (Run.finished t name type) := Session.Grows.before_finished fresh inside
  exact ⟨orderly.given, fun member => before.contains (orderly.held member), orderly.free⟩

end Session.Orderly

namespace Translation

variable {schemas : Node} {fits : Schema → Prop} {judgement : Judgement}

theorem nodup_finished {s t : Session} {name : String} {type : Ty}
    (distinct : t.registry.names.Nodup) (fresh : s.registry.contains name = false)
    (inside : (Run.begun s name).Grows t) : (Run.finished t name type).registry.names.Nodup := by
  have waiting : t.registry.get? name = none :=
    inside.waiting name List.mem_cons_self (Session.Grows.of_contains_false fresh).1
  rw [Registry.names, Session.Grows.entries_finished fresh inside, List.map_append,
    List.nodup_append]
  refine ⟨distinct, List.nodup_singleton _, ?_⟩
  rintro other registered _ last rfl
  obtain rfl := List.mem_singleton.1 last
  exact Registry.get?_eq_none_iff.1 waiting registered

/-- No translation registers a name twice. -/
theorem Derives.names_nodup (derived : Derives schemas judgement)
    (start : judgement.start.registry.names.Nodup) : judgement.finish.registry.names.Nodup :=
  @Derives.keeps schemas (fun s => s.registry.names.Nodup) _ judgement derived inherited_true
    judgement.schemasHave_true start
    (fun distinct registry _ => by rwa [registry])
    (fun builds distinct inside => nodup_finished (inside distinct) builds.fresh builds.inside.grows)
    fun _ hoists distinct inside => nodup_finished (inside distinct) hoists.fresh hoists.inside.grows

/-- A translation keeps a session orderly. -/
theorem Derives.orderly (derived : Derives schemas judgement) (start : judgement.start.Orderly) :
    judgement.finish.Orderly := by
  refine derived.keeps inherited_true judgement.schemasHave_true start
    (fun orderly => orderly.noted) (fun builds orderly inside => ?_)
    fun _ hoists orderly inside => ?_
  · exact (inside orderly.begun).finished builds.fresh builds.inside.grows
  · exact (inside (orderly.hoisting hoists.fresh hoists.free)).finished hoists.fresh
      hoists.inside.grows

/-! ## Where entries come from -/

/-- By the session, a derivation has registered the type under the name: as that of a
component, or as the record of an inline object. -/
inductive Registered (schemas : Node) (fits : Schema → Prop) (t : Session) :
    String → Ty → Prop where
  | component {name : String} {schema : Schema} {s u : Session} {type : Ty}
      (builds : BuildsComponent schemas name schema s type u) (before : u.Before t) :
      Registered schemas fits t name type
  | hoisted {name context text : String} {schema : Schema} {s u : Session}
      {fields : List (Field Ty)} (fit : fits schema)
      (hoists : HoistsRecord schemas schema context name s fields text u) (before : u.Before t) :
      Registered schemas fits t name (.record (some name) fields text)

theorem Registered.later {t t' : Session} {name : String} {type : Ty}
    (registered : Registered schemas fits t name type) (before : t.Before t') :
    Registered schemas fits t' name type := by
  cases registered with
  | component builds earlier => exact .component builds (earlier.trans before)
  | hoisted fit hoists earlier => exact .hoisted fit hoists (earlier.trans before)

/-- Every entry has an origin. -/
def Traced (schemas : Node) (fits : Schema → Prop) (s : Session) : Prop :=
  ∀ entry ∈ s.registry.entries, Registered schemas fits s entry.1 entry.2

theorem Traced.of_entries {s t : Session} (traced : Traced schemas fits s)
    (before : s.Before t) (entries : t.registry.entries = s.registry.entries) :
    Traced schemas fits t := by
  intro entry member
  rw [entries] at member
  exact (traced entry member).later before

/-- A translation leaves no entry without an origin. -/
theorem Derives.traced (derived : Derives schemas judgement) (inherited : Inherited schemas fits)
    (fit : judgement.SchemasHave fits) (start : Traced schemas fits judgement.start) :
    Traced schemas fits judgement.finish := by
  have appended : ∀ {t t' : Session} {name : String} {type : Ty}, t.Before t' →
      t'.registry.entries = t.registry.entries ++ [(name, type)] →
      Registered schemas fits t' name type → Traced schemas fits t →
      Traced schemas fits t' := by
    intro t t' name type before entries new traced entry member
    rw [entries] at member
    rcases List.mem_append.1 member with old | last
    · exact (traced entry old).later before
    · obtain rfl := List.mem_singleton.1 last
      exact new
  refine derived.keeps inherited fit start (fun {s t} traced registry hoisted => ?_)
    (fun {name schema s type t} builds traced inside => ?_)
    fun {schema context name s fields text t} fit hoists traced inside => ?_
  · exact traced.of_entries (.noted registry hoisted) (by rw [registry])
  · exact appended builds.before builds.entries (.component builds builds.before)
      (inside (traced.of_entries .begun rfl))
  · exact appended hoists.before hoists.entries (.hoisted fit hoists hoists.before)
      (inside (traced.of_entries .hoisting rfl))

/-! ## What a schema became -/

/-- By the session, a translation has given the schema the type in the context: by
itself, or inside another translation. -/
def Became (schemas : Node) (t : Session) (schema : Schema) (context : String) (type : Ty) : Prop :=
  ∃ s u, Derives schemas (.schema schema context s type u) ∧ u.Before t

theorem Became.later {t t' : Session} {schema : Schema} {context : String} {type : Ty}
    (became : Became schemas t schema context type) (before : t.Before t') :
    Became schemas t' schema context type := by
  obtain ⟨s, u, derived, earlier⟩ := became
  exact ⟨s, u, derived, earlier.trans before⟩

end Translation

end TypedContract
