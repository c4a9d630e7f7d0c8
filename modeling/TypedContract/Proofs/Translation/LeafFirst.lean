/-
# TypedContract.Proofs.Translation.LeafFirst -- types come after those they refer to

A reference is given out for a name that is registered, or for one that is still in
progress; only the latter puts a type before one that it refers to.  It happens in two ways:
a schema refers to a component that is being built, or is an object that is being hoisted.
Either way the translation has gone down from that component or object to the schema, and
the schema leads up to it again.

`Clear` says that a schema leads to nothing in progress.  It is kept on the way down
(`Clear.stepsDown`), by what is translated meanwhile (`Clear.later`) and, as long as no way down
comes back, when a further name begins to be built.  So a translation of clear schemas
keeps the entries leaf first and gives types whose references are registered
(`Derives.layered`); in particular no component is built anew, since no merge meets one that
is in progress.
-/
import TypedContract.Proofs.Translation.Closed
import TypedContract.Proofs.Translation.Course
import TypedContract.Proofs.Translation.Descent

namespace TypedContract

set_option autoImplicit false

open Relation

namespace Registry

variable {registry later : Registry} {name : String} {type : Ty}

/-! ## Leaf first -/

/-- Each type refers only to names that stand before its own. -/
def LeafFirst (registry : Registry) : Prop :=
  ∀ before entry after, registry.entries = before ++ entry :: after →
    ∀ name ∈ entry.2.references, name ∈ before.map Prod.fst

/-- The registry without the names in progress: it covers a type whose references are all
registered. -/
def atRest (registry : Registry) : Registry := { registry with building := [] }

theorem contains_atRest :
    registry.atRest.contains name = true ↔ ∃ type, registry.get? name = some type := by
  rw [contains_iff]
  exact or_iff_left List.not_mem_nil

/-- Names in progress are of no concern to chains of references. -/
theorem resolve_atRest : registry.atRest.resolve type = registry.resolve type := by
  have followed : ∀ bound seen (type : Ty),
      registry.atRest.follow seen bound type = registry.follow seen bound type := by
    intro bound
    induction bound with
    | zero => exact fun seen type => by cases type <;> rfl
    | succ bound ih =>
        intro seen type
        cases type with
        | reference name =>
            unfold follow
            simp only [ih]
            rfl
        | _ => rfl
  exact followed _ _ type

/-- What was registered covers a type still when more is registered. -/
theorem covers_of_prefix (grown : registry.entries <+: later.entries)
    (covers : registry.atRest.Covers type) : later.atRest.Covers type := by
  refine covers.mono fun name held => ?_
  obtain ⟨type, found⟩ := contains_atRest.1 held
  exact contains_atRest.2 ⟨type, get?_of_prefix grown found⟩

/-- What the last entry refers to stands before it. -/
theorem LeafFirst.append (ordered : registry.LeafFirst) (covers : registry.atRest.Covers type)
    (entries : later.entries = registry.entries ++ [(name, type)]) : later.LeafFirst := by
  intro before entry after split other member
  rw [entries] at split
  rcases List.eq_nil_or_concat after with rfl | ⟨middle, last, rfl⟩
  · obtain ⟨rfl, same⟩ := List.append_inj' split rfl
    obtain rfl := List.singleton_injective same
    exact mem_names_iff.2 (contains_atRest.1 (covers other member))
  · have shifted : registry.entries ++ [(name, type)] =
        (before ++ entry :: middle) ++ [last] := by
      rw [split]
      simp
    obtain ⟨earlier, -⟩ := List.append_inj' shifted rfl
    exact ordered before entry middle earlier other member

theorem LeafFirst.closed (ordered : registry.LeafFirst) : registry.atRest.Closed := by
  intro entry member name inside
  obtain ⟨before, after, split⟩ := List.append_of_mem member
  have earlier : name ∈ before.map Prod.fst := ordered before entry after split name inside
  refine contains_atRest.2 (mem_names_iff.1 ?_)
  have split' : registry.entries = before ++ entry :: after := split
  rw [names, split', List.map_append]
  exact List.mem_append_left _ earlier

end Registry

namespace Translation

open Schema

variable {schemas : Node} {opens : String → Prop} {fits : Schema → Prop} {s t : Session}
  {name : String} {type : Ty} {schema inner : Schema} {judgement : Judgement}

/-! ## Schemas that lead to nothing in progress -/

/-- No way down from the schema comes to a reference to a name in progress, nor to the place
that such a name was given to. -/
def Clear (schemas : Node) (opens : String → Prop) (s : Session) (schema : Schema) : Prop :=
  ∀ name ∈ s.registry.building, ∀ part, ReflTransGen (StepsDown schemas opens) schema part →
    ¬ RefersTo schemas part name ∧
    ∀ place, part.facts.node.place = some place → s.hoisted.lookup name ≠ some (some place)

theorem Clear.stepsDown (clear : Clear schemas opens s schema)
    (step : StepsDown schemas opens schema inner) : Clear schemas opens s inner :=
  fun name member part way => clear name member part (.head step way)

theorem clear_of_idle (idle : s.registry.building = []) : Clear schemas opens s schema := by
  intro name member
  rw [idle] at member
  cases member

/-- What a translation does meanwhile is of no concern to the names in progress. -/
theorem Clear.later (clear : Clear schemas opens judgement.start schema)
    (derived : Derives schemas judgement) : Clear schemas opens judgement.finish schema := by
  intro name member part way
  have building : name ∈ judgement.start.registry.building := derived.grows.building ▸ member
  have course := derived.course (Registry.contains_iff.2 (.inr building))
  rw [course.lookup]
  exact clear name building part way

/-- The schema has the property and leads to nothing in progress. -/
structure Ready (schemas : Node) (opens : String → Prop) (fits : Schema → Prop) (s : Session)
    (schema : Schema) : Prop where
  fits : fits schema
  clear : Clear schemas opens s schema

theorem Ready.child (ready : Ready schemas opens fits s schema)
    (descent : Descent schemas opens fits) (child : Child schema inner) :
    Ready schemas opens fits s inner :=
  ⟨descent.child ready.fits child, ready.clear.stepsDown (.child child)⟩

theorem Ready.later (ready : Ready schemas opens fits judgement.start schema)
    (derived : Derives schemas judgement) : Ready schemas opens fits judgement.finish schema :=
  ⟨ready.fits, ready.clear.later derived⟩

/-- The schemas that a part of a translation begins with are ready.  A component is not in
progress, and its schema is ready if it is to be built. -/
def Judgement.Ready (schemas : Node) (opens : String → Prop) (fits : Schema → Prop) :
    Judgement → Prop
  | .schema subject _ s _ _ | .bare subject _ s _ _ | .named _ subject s _ _ =>
      Translation.Ready schemas opens fits s subject
  | .each parts s _ _ => ∀ part ∈ parts, Translation.Ready schemas opens fits s part.1
  | .fields _ _ properties s _ _ =>
      ∀ property ∈ properties, Translation.Ready schemas opens fits s property.2
  | .component name s _ _ => name ∉ s.registry.building ∧
      ∀ schema, s.registry.contains name = false → componentSchema schemas name = .ok schema →
        Translation.Ready schemas opens fits s schema
  | _ => True

/-! ## Layered sessions -/

/-- The entries are leaf first.  The names in progress are not registered, the names of
components are reserved and no reserved name is given to a place; a component that may not
be entered is registered. -/
structure Layered (schemas : Node) (opens : String → Prop) (s : Session) : Prop where
  ordered : s.registry.LeafFirst
  waiting : ∀ name ∈ s.registry.building, s.registry.get? name = none
  reserves : ReservesComponents schemas s.registry
  free : ∀ given ∈ s.hoisted, given.1 ∉ s.registry.reserved
  complete : ∀ name, schemas.value.holds name = .ok true →
    opens name ∨ ∃ type, s.registry.get? name = some type

namespace Layered

/-- Notes change nothing that counts. -/
theorem noted (layered : Layered schemas opens s) (registry : t.registry = s.registry)
    (hoisted : t.hoisted = s.hoisted) : Layered schemas opens t := by
  constructor
  · rw [registry]
    exact layered.ordered
  · rw [registry]
    exact layered.waiting
  · rw [registry]
    exact layered.reserves
  · rw [registry, hoisted]
    exact layered.free
  · rw [registry]
    exact layered.complete

theorem begun (layered : Layered schemas opens s) (fresh : s.registry.contains name = false) :
    Layered schemas opens (Run.begun s name) := by
  refine ⟨layered.ordered, ?_, layered.reserves, layered.free, layered.complete⟩
  intro other member
  rcases List.mem_cons.1 member with rfl | earlier
  · exact (Session.Grows.of_contains_false fresh).1
  · exact layered.waiting other earlier

theorem hoisting (layered : Layered schemas opens s) (free : name ∉ s.registry.reserved)
    (place : Option Place) : Layered schemas opens (hoisting s name place) := by
  refine ⟨layered.ordered, layered.waiting, layered.reserves, ?_, layered.complete⟩
  intro given member
  rcases List.mem_cons.1 member with rfl | earlier
  · exact free
  · exact layered.free given earlier

/-- A type whose references are registered may be registered itself. -/
theorem finished (layered : Layered schemas opens t) (fresh : s.registry.contains name = false)
    (inside : (Run.begun s name).Grows t) (covers : t.registry.atRest.Covers type) :
    Layered schemas opens (Run.finished t name type) := by
  have entries : (Run.finished t name type).registry.entries =
      t.registry.entries ++ [(name, type)] := Session.Grows.entries_finished fresh inside
  refine ⟨layered.ordered.append covers entries, ?_, layered.reserves, layered.free, ?_⟩
  · intro other member
    have building : other ∈ t.registry.building.filter (· != name) :=
      Registry.building_leave ▸ member
    obtain ⟨waiting, apart⟩ := List.mem_filter.1 building
    refine Option.eq_none_iff_forall_ne_some.2 fun found registered => ?_
    rcases Session.Grows.of_get?_finished fresh inside registered with earlier | ⟨rfl, -⟩
    · cases (layered.waiting other waiting).symm.trans earlier
    · simp at apart
  · intro other held
    refine (layered.complete other held).imp_right fun ⟨type, found⟩ => ⟨type, ?_⟩
    exact Registry.get?_of_prefix (entries ▸ List.prefix_append _ _) found

/-- A component that may not be entered is registered. -/
theorem opened (layered : Layered schemas opens s) (fresh : s.registry.contains name = false)
    (parsed : componentSchema schemas name = .ok schema) : opens name := by
  refine (layered.complete name (holds_of_componentSchema parsed)).resolve_right ?_
  rintro ⟨type, found⟩
  rw [Registry.contains_iff.2 (.inl ⟨type, found⟩)] at fresh
  cases fresh

/-- A name that no place can be given was given to none. -/
theorem lookup_ne (layered : Layered schemas opens s)
    (held : schemas.value.holds name = .ok true) (place : Option Place) :
    s.hoisted.lookup name ≠ some place := by
  intro found
  obtain ⟨newer, older, same, -⟩ := List.lookup_eq_some_iff.1 found
  have member : (name, place) ∈ s.hoisted := same ▸ List.mem_append_right _ List.mem_cons_self
  exact layered.free _ member (layered.reserves name held)

end Layered

/-! ## Names that begin to be built -/

theorem holds_of_refersTo (refers : RefersTo schemas schema name) :
    schemas.value.holds name = .ok true := holds_of_target refers.2

/-- The component that a ready schema refers to is not in progress, and ready to be built. -/
theorem Ready.reference (ready : Ready schemas opens fits s schema)
    (descent : Descent schemas opens fits) (layered : Layered schemas opens s)
    (refers : RefersTo schemas schema name) :
    (Judgement.component name s type t).Ready schemas opens fits := by
  refine ⟨fun member => (ready.clear name member schema .refl).1 refers,
    fun inner fresh parsed => ?_⟩
  have opened : opens name := layered.opened fresh parsed
  exact ⟨descent.component opened parsed, ready.clear.stepsDown (.component refers opened parsed)⟩

/-- An object that is hoisted already is registered: it would be below itself if it were in
progress. -/
theorem Ready.registered_of_isHoisted (ready : Ready schemas opens fits s schema)
    (before : isHoisted s name schema.facts.node.place = true) :
    s.registry.atRest.Covers (.reference name) := by
  simp only [isHoisted, Bool.and_eq_true, beq_iff_eq] at before
  refine Registry.covers_reference_iff.2 (Registry.contains_atRest.2 ?_)
  refine (Registry.contains_iff.1 before.2).resolve_right fun building => ?_
  obtain ⟨place, placed⟩ := Option.isSome_iff_exists.1 before.1.1
  rw [placed] at before
  exact (ready.clear name building schema .refl).2 place placed before.1.2

/-- A component leads to nothing in progress while it is built itself: no way down comes
back to it. -/
theorem Ready.begun (ready : Ready schemas opens fits s schema)
    (descent : Descent schemas opens fits) (layered : Layered schemas opens s)
    (fresh : s.registry.contains name = false)
    (parsed : componentSchema schemas name = .ok schema) :
    Ready schemas opens fits (Run.begun s name) schema := by
  refine ⟨ready.fits, fun other member part way => ?_⟩
  rcases List.mem_cons.1 member with rfl | earlier
  · refine ⟨fun refers => ?_, fun place _ => ?_⟩
    · have back : StepsDown schemas opens part schema :=
        .component refers (layered.opened fresh parsed) parsed
      exact descent.acyclic schema (TransGen.tail' way back)
    · exact layered.lookup_ne (holds_of_componentSchema parsed) _
  · exact ready.clear other earlier part way

/-- The children of an object lead to nothing in progress while the object is hoisted. -/
theorem Ready.hoisting (ready : Ready schemas opens fits s schema)
    (descent : Descent schemas opens fits) (layered : Layered schemas opens s)
    (fresh : s.registry.contains name = false) (free : name ∉ s.registry.reserved)
    (child : Child schema inner) :
    Ready schemas opens fits
      (Run.begun (Translation.hoisting s name schema.facts.node.place) name) inner := by
  refine ⟨descent.child ready.fits child, fun other member part way => ?_⟩
  have down : TransGen (StepsDown schemas opens) schema part := TransGen.head' (.child child) way
  rcases List.mem_cons.1 member with rfl | earlier
  · refine ⟨fun refers => ?_, fun place placed noted => ?_⟩
    · exact free (layered.reserves other (holds_of_refersTo refers))
    · have own : schema.facts.node.place = some place := by
        simpa [Run.begun, Translation.hoisting, List.lookup_cons] using noted
      exact descent.apart ready.fits down own placed
  · have given : s.Moves (Translation.hoisting s name schema.facts.node.place) :=
      .gives schema.facts.node.place fresh
    have same := given.lookup (Registry.contains_iff.2 (.inr earlier))
    obtain ⟨unreferred, unplaced⟩ := ready.clear other earlier part down.to_reflTransGen
    exact ⟨unreferred, fun place placed => same ▸ unplaced place placed⟩

/-! ## Translations -/

/-- Begun in a layered session with ready schemas and types whose references are registered,
the part ends in a layered session and gives such types. -/
def Judgement.KeepsLayered (schemas : Node) (opens : String → Prop) (fits : Schema → Prop)
    (judgement : Judgement) : Prop :=
  judgement.Ready schemas opens fits → Layered schemas opens judgement.start →
    (∀ type ∈ judgement.given, judgement.start.registry.atRest.Covers type) →
      Layered schemas opens judgement.finish ∧
        ∀ type ∈ judgement.gives, judgement.finish.registry.atRest.Covers type

/-- A translation keeps the entries leaf first, as long as no way down comes back. -/
theorem Derives.layered (descent : Descent schemas opens fits)
    (derived : Derives schemas judgement) : judgement.KeepsLayered schemas opens fits := by
  unfold Judgement.KeepsLayered
  induction derived with simp only [Judgement.start, Judgement.finish, Judgement.given,
      Judgement.gives, Judgement.Ready, List.mem_singleton, forall_eq, List.not_mem_nil,
      false_imp_iff, implies_true, forall_const, and_true, List.forall_mem_map] at *
  | nilable inside ih =>
      intro ready layered
      obtain ⟨after, covers⟩ := ih ready layered
      exact ⟨after, covers_withNil covers⟩
  | scalar kind typed =>
      obtain ⟨values?, -, rfl⟩ := scalar_eq_ok typed
      exact fun _ layered => ⟨layered, Registry.covers_primitive⟩
  | unresolved | unsupported =>
      exact fun _ layered => ⟨layered.noted rfl rfl, Registry.covers_unknown⟩
  | any => exact fun _ layered => ⟨layered, Registry.covers_unknown⟩
  | @reference schema context name s t known nilable kind leads registered atUse ih =>
      intro ready layered
      have entered : (Judgement.component name s known t).Ready schemas opens fits :=
        ready.reference descent layered ⟨kind, leads⟩
      obtain ⟨after, -⟩ := ih entered layered
      -- registered or in progress, and it was not in progress before
      have idle : name ∉ t.registry.building := registered.grows.building ▸ entered.1
      have found := (Registry.contains_iff.1 registered.contains).resolve_right idle
      refine ⟨after, covers_referenceType ?_⟩
      exact Registry.covers_reference_iff.2 (Registry.contains_atRest.2 found)
  | untyped | openMap =>
      exact fun _ layered => ⟨layered, fun name member => by simp at member⟩
  | array kind items inside ih =>
      intro ready layered
      exact ih (ready.child descent (.item items)) layered
  | map kind properties additional inside ih =>
      intro ready layered
      exact ih (ready.child descent (.value additional)) layered
  | record kind properties inside described ih =>
      intro ready layered
      obtain ⟨after, covers⟩ :=
        ih (fun property member => ready.child descent (.property member)) layered
      exact ⟨after, Registry.covers_record_iff.2 covers⟩
  | hoistedBefore kind properties contextual before =>
      exact fun ready layered => ⟨layered, ready.registered_of_isHoisted before⟩
  | @hoisted schema context name s t fields text kind properties contextual anew unique inside
      described ih =>
      intro ready layered
      -- nothing refers to the new name, so the children stay ready while the record is built
      obtain ⟨fresh, free⟩ := hoisting_unused unique schema.facts.node.place
      obtain ⟨after, covers⟩ := ih
        (fun property member => ready.hoisting descent layered fresh free (.property member))
        ((layered.hoisting free _).begun fresh)
      have record : t.registry.atRest.Covers (.record (some name) fields text) :=
        Registry.covers_record_iff.2 covers
      refine ⟨after.finished fresh inside.grows record, Registry.covers_reference_iff.2 ?_⟩
      exact Registry.contains_atRest.2 ⟨_, Session.Grows.get?_finished fresh inside.grows⟩
  | union kind inside ih =>
      intro ready layered
      obtain ⟨after, covers⟩ :=
        ih (forall_unionParts fun member held => ready.child descent (.member held)) layered
      exact ⟨after, Registry.covers_union_iff.2 covers⟩
  | allOf kind inside merge ihInside ihMerge =>
      intro ready layered
      obtain ⟨after, covers⟩ :=
        ihInside (forall_typedParts fun member held => ready.child descent (.member held)) layered
      exact ihMerge after covers
  | eachNil | fieldsNil => exact id
  | eachCons head tail ihHead ihTail =>
      intro ready layered
      obtain ⟨first, rest⟩ := List.forall_mem_cons.1 ready
      obtain ⟨middle, covers⟩ := ihHead first layered
      obtain ⟨after, others⟩ := ihTail (fun part member => (rest part member).later head) middle
      refine ⟨after, ?_⟩
      simpa using ⟨Registry.covers_of_prefix tail.grows.entries covers, others⟩
  | fieldsCons head described tail ihHead ihTail =>
      intro ready layered
      obtain ⟨first, rest⟩ := List.forall_mem_cons.1 ready
      obtain ⟨middle, covers⟩ := ihHead first layered
      obtain ⟨after, others⟩ := ihTail (fun part member => (rest part member).later head) middle
      refine ⟨after, ?_⟩
      simpa [fieldOf] using ⟨Registry.covers_of_prefix tail.grows.entries covers, others⟩
  | @known name s type found =>
      rintro ⟨idle, -⟩ layered
      refine ⟨layered, ?_⟩
      rcases Registry.enter_eq_inl_iff.1 found with found | ⟨-, building, -⟩
      · exact layered.ordered.closed.get? found
      · exact absurd building idle
  | built fresh parsed inside ih =>
      rintro ⟨-, ready⟩ layered
      -- no way down from the component comes back to it, so its schema stays ready as well
      obtain ⟨after, covers⟩ := ih ((ready _ fresh parsed).begun descent layered fresh parsed)
        (layered.begun fresh)
      exact ⟨after.finished fresh inside.grows covers, Registry.covers_of_prefix
        (Session.Grows.before_finished fresh inside.grows).entries covers⟩
  | namedRecord kind properties inside described ih =>
      intro ready layered
      obtain ⟨after, covers⟩ :=
        ih (fun property member => ready.child descent (.property member)) layered
      exact ⟨after, Registry.covers_record_iff.2 covers⟩
  | namedMerge kind inside merge ihInside ihMerge =>
      intro ready layered
      obtain ⟨after, covers⟩ :=
        ihInside (forall_typedParts fun member held => ready.child descent (.member held)) layered
      exact ihMerge after covers
  | namedUnion kind inside ih =>
      intro ready layered
      obtain ⟨after, covers⟩ :=
        ih (forall_numberedParts fun member held => ready.child descent (.member held)) layered
      exact ⟨after, covers_namedUnion covers⟩
  | namedOther record merge union inside ih => exact ih
  | settled stays =>
      intro layered covers
      refine ⟨layered, ?_⟩
      rw [← Registry.resolve_atRest]
      exact layered.ordered.closed.resolve (covers_bareMember covers)
  | rebuilt meets rebuilds parsed inside ih =>
      -- what a merge meets is registered, so it is not in progress
      intro layered covers
      have resolved := layered.ordered.closed.resolve (covers_bareMember covers)
      rw [Registry.resolve_atRest, meets, Registry.covers_reference_iff] at resolved
      obtain ⟨type, found⟩ := Registry.contains_atRest.1 resolved
      have building := List.contains_iff_mem.1 rebuilds.1
      cases found.symm.trans (layered.waiting _ building)
  | sourcesNil => exact id
  | sourcesCons head tail ihHead ihTail =>
      intro layered covers
      simp only [List.mem_cons, forall_eq_or_imp] at covers
      obtain ⟨middle, source⟩ := ihHead layered covers.1
      obtain ⟨after, rest⟩ := ihTail middle
        fun type member => Registry.covers_of_prefix head.grows.entries (covers.2 type member)
      refine ⟨after, ?_⟩
      simpa using ⟨Registry.covers_of_prefix tail.grows.entries source, rest⟩
  | merged inside records described ih =>
      intro layered covers
      obtain ⟨after, sources⟩ := ih layered covers
      exact ⟨after, Registry.covers_record_iff.2 fun field => covers_mergeFields sources⟩
  | wrapped inside mixed ih =>
      intro layered covers
      obtain ⟨after, -⟩ := ih layered covers
      refine ⟨after, ?_⟩
      rw [Registry.covers_union_iff]
      have later := Registry.covers_of_prefix inside.grows.entries covers
      simpa [Judgement.start, Judgement.finish] using later
  | refused inside mixed several ih =>
      intro layered covers
      exact ⟨(ih layered covers).1.noted rfl rfl, Registry.covers_unknown⟩

end Translation

end TypedContract
