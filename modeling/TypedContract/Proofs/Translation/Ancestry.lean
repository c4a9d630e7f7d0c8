/-
# TypedContract.Proofs.Translation.Ancestry -- what is in progress when a component begins

A component begins to be built because something refers to it: the schema that is translated
just then, or, where a merge builds a component in progress anew, the schema of that one.
Either schema belongs to the component in progress or is reached from it.  So all components
in progress lead to the one that begins (`Led`), and each registered component was begun
under such ancestors (`SessionOf.reached`).

This is what keeps a merge from meeting a component in progress: a member that refers to one
closes a way from that component back to itself.
-/
import TypedContract.Proofs.Translation.Agreement
import TypedContract.Proofs.Translation.Descent
import TypedContract.Proofs.Translation.Faithful
import TypedContract.Proofs.Translation.Registration

namespace TypedContract

set_option autoImplicit false

open Relation (ReflTransGen TransGen)

namespace Translation

open Schema

variable {schemas : Node} {number : Nat} {contract : Json} {final s t u : Session}
  {schema inner : Schema} {context name : String} {type : Ty} {types : List Ty}
  {judgement : Judgement}

/-! ## What a schema mentions -/

/-- Somewhere in the schema stands a reference to the component. -/
def Mentions (schemas : Node) (schema : Schema) (name : String) : Prop :=
  ∃ part, ReflTransGen Child schema part ∧ RefersTo schemas part name

theorem Mentions.self (refers : RefersTo schemas schema name) : Mentions schemas schema name :=
  ⟨schema, .refl, refers⟩

theorem Mentions.child (child : Child schema inner) (mentions : Mentions schemas inner name) :
    Mentions schemas schema name := by
  obtain ⟨part, below, refers⟩ := mentions
  exact ⟨part, .head child below, refers⟩

/-- A component points to what its schema mentions. -/
theorem Mentions.pointsTo {component : String} (mentions : Mentions schemas schema name)
    (parsed : componentSchema schemas component = .ok schema) : PointsTo schemas component name := by
  obtain ⟨part, below, refers⟩ := mentions
  exact ⟨schema, part, parsed, below, refers⟩

/-! ## References that types hold -/

/-- A union is stripped to a reference that is among its members. -/
theorem mem_of_bareMember_union {union : Option String}
    (bare : bareMember (.union union types) = .reference name) :
    union = none ∧ .reference name ∈ types := by
  cases union with
  | some other => cases bare
  | none =>
      unfold bareMember at bare
      dsimp only at bare
      split at bare
      · rename_i only single
        have kept : only ∈ types.filter (!·.isNil) := single ▸ List.mem_singleton_self only
        exact ⟨rfl, bare ▸ (List.mem_filter.1 kept).1⟩
      · cases bare

theorem eq_reference_of_withNil {nullable : Bool}
    (same : withNil nullable type = .reference name) : type = .reference name := by
  unfold withNil at same
  split at same
  · cases same
  · exact same

section

variable (ended : Ended schemas number contract final) (held : schemas.value.holds name = .ok true)

include ended held

/-- A schema that has become the reference to a component refers to it: no object was hoisted
to the name. -/
theorem Derives.refers (derived : Derives schemas (.bare schema context s type t))
    (before : t.Before final) (same : type = .reference name) : RefersTo schemas schema name := by
  have apart : ∀ {place}, (name, place) ∉ t.hoisted := fun given =>
    ended.chronicle.apart (before.hoisted.subset given) held
  cases derived with
  | scalar kind typed =>
      obtain ⟨values?, -, rfl⟩ := scalar_eq_ok typed
      cases same
  | @reference _ _ other _ _ _ nilable kind leads registered atUse =>
      cases nilable with
      | false =>
          cases same
          exact ⟨kind, leads⟩
      | true => cases same
  | hoistedBefore kind properties contextual isHere =>
      cases same
      simp only [isHoisted, Bool.and_eq_true, beq_iff_eq] at isHere
      obtain ⟨newer, older, split, -⟩ := List.lookup_eq_some_iff.1 isHere.1.2
      exact absurd (split ▸ List.mem_append_right _ List.mem_cons_self) apart
  | hoisted kind properties contextual anew unique inside described =>
      cases same
      exact absurd (inside.grows.hoisted.subset List.mem_cons_self) apart
  | allOf kind inside merge => cases merge <;> cases same
  | _ => cases same

theorem Derives.refers_of_schema
    (derived : Derives schemas (.schema schema context s (.reference name) t))
    (before : t.Before final) : RefersTo schemas schema name := by
  obtain ⟨inner, same, bare⟩ := derived.of_schema
  exact bare.refers ended held before (eq_reference_of_withNil same.symm)

/-- What a merge strips to the reference to a component mentions the component. -/
theorem Derives.mentions (derived : Derives schemas (.schema schema context s type t))
    (before : t.Before final) (same : bareMember type = .reference name) :
    Mentions schemas schema name := by
  obtain ⟨inner, rfl, bare⟩ := derived.of_schema
  replace same := bareMember_withNil same
  cases bare with
  | @reference _ _ other _ _ _ nilable kind leads registered atUse =>
      rw [bareMember_referenceType] at same
      cases same
      exact .self ⟨kind, leads⟩
  | union kind inside =>
      obtain ⟨-, member⟩ := mem_of_bareMember_union same
      obtain ⟨part, inParts, u, v, -, earlier, own⟩ := exists_of_forall₂_right inside.of_each member
      have among : part.1 ∈ (unionParts context 1 schema.members).map Prod.fst :=
        List.mem_map_of_mem inParts
      rw [map_fst_unionParts] at among
      exact .child (.member among) (.self (own.refers_of_schema ended held (earlier.trans before)))
  | allOf kind inside merge =>
      have later := merge.grows.before.trans before
      cases merge with
      | merged | refused => cases same
      | wrapped =>
          obtain ⟨-, member⟩ := mem_of_bareMember_union same
          obtain ⟨inner, among, context, u, v, earlier, own⟩ := inside.of_typed member
          exact .child (.member among) (.self (own.refers_of_schema ended held (earlier.trans later)))
  | hoistedBefore kind properties contextual isHere =>
      exact .self ((Derives.hoistedBefore kind properties contextual isHere).refers ended held before same)
  | hoisted kind properties contextual anew unique inside described =>
      exact .self ((Derives.hoisted kind properties contextual anew unique inside described).refers
        ended held before same)
  | scalar kind typed =>
      obtain ⟨values?, -, rfl⟩ := scalar_eq_ok typed
      cases same
  | _ => cases same

end

/-! ## What is in progress -/

/-- Every component in progress leads to the component. -/
def Led (schemas : Node) (s : Session) (name : String) : Prop :=
  ∀ ancestor ∈ s.registry.building, schemas.value.holds ancestor = .ok true →
    TransGen (PointsTo schemas) ancestor name

/-- A translation leaves the same names in progress. -/
theorem Led.grows (led : Led schemas s name) (grows : s.Grows t) : Led schemas t name := by
  intro ancestor member held
  exact led ancestor (grows.building ▸ member) held

/-- Under a component that begins, what its schema mentions is led to as well. -/
theorem Led.begun {other : String} (led : Led schemas s name)
    (mentions : PointsTo schemas name other) : Led schemas (Run.begun s name) other := by
  intro ancestor member held
  rcases List.mem_cons.1 member with rfl | earlier
  · exact .single mentions
  · exact (led ancestor earlier held).tail mentions

/-- An object that is hoisted is no component. -/
theorem Led.hoisting {other : String} {place : Option Place} (led : Led schemas s other)
    (apart : schemas.value.holds name ≠ .ok true) :
    Led schemas (Run.begun (hoisting s name place) name) other := by
  intro ancestor member held
  rcases List.mem_cons.1 member with rfl | earlier
  · exact absurd held apart
  · exact led ancestor earlier held

/-- The components that a part of a translation may come to refer to. -/
def Judgement.Mentions (schemas : Node) : Judgement → String → Prop
  | .schema subject _ _ _ _, name | .bare subject _ _ _ _, name | .named _ subject _ _ _, name =>
      Translation.Mentions schemas subject name
  | .each parts _ _ _, name => ∃ part ∈ parts, Translation.Mentions schemas part.1 name
  | .fields _ _ properties _ _ _, name =>
      ∃ property ∈ properties, Translation.Mentions schemas property.2 name
  | .component own _ _ _, name => name = own
  | .source type _ _ _, name => bareMember type = .reference name
  | .sources types _ _ _, name | .combined _ _ types _ _ _, name =>
      ∃ type ∈ types, bareMember type = .reference name

/-- Every component in progress leads to all that the part of a translation refers to. -/
def Judgement.Below (schemas : Node) (judgement : Judgement) : Prop :=
  ∀ name, schemas.value.holds name = .ok true → judgement.Mentions schemas name →
    Led schemas judgement.start name

/-! ## What is registered -/

/-- By the session, the type was registered for a component that all components in progress
led to when it began, or it is the record of an inline object. -/
inductive Reached (schemas : Node) (t : Session) (name : String) (type : Ty) : Prop where
  | component {schema : Schema} {s u : Session}
      (builds : BuildsComponent schemas name schema s type u) (led : Led schemas s name)
      (before : (Run.finished u name type).Before t)
  | record (apart : schemas.value.holds name ≠ .ok true) (isRecord : type.isRecord = true)

theorem Reached.later (reached : Reached schemas s name type) (before : s.Before t) :
    Reached schemas t name type := by
  cases reached with
  | component builds led earlier => exact .component builds led (earlier.trans before)
  | record apart isRecord => exact .record apart isRecord

/-- All that is registered was reached. -/
def AllReached (schemas : Node) (t : Session) : Prop :=
  ∀ name type, t.registry.get? name = some type → Reached schemas t name type

namespace AllReached

/-- What looks at the registered types and at what is held keeps what was reached. -/
theorem of_entries (reached : AllReached schemas s) (before : s.Before t)
    (entries : t.registry.entries = s.registry.entries) : AllReached schemas t := by
  intro name type found
  have earlier : s.registry.get? name = some type := by
    rw [← found]
    unfold Registry.get?
    rw [entries]
  exact (reached name type earlier).later before

theorem noted (reached : AllReached schemas s) (registry : t.registry = s.registry)
    (hoisted : t.hoisted = s.hoisted) : AllReached schemas t :=
  reached.of_entries (.noted registry hoisted) (by rw [registry])

theorem begun (reached : AllReached schemas s) : AllReached schemas (Run.begun s name) :=
  reached.of_entries .begun rfl

theorem hoisting (reached : AllReached schemas s) {place : Option Place} :
    AllReached schemas (Run.begun (Translation.hoisting s name place) name) :=
  reached.of_entries .hoisting rfl

theorem finished (reached : AllReached schemas t) (fresh : s.registry.contains name = false)
    (inside : (Run.begun s name).Grows t)
    (own : Reached schemas (Run.finished t name type) name type) :
    AllReached schemas (Run.finished t name type) := by
  have before : t.Before (Run.finished t name type) := Session.Grows.before_finished fresh inside
  intro other found registered
  rcases Session.Grows.of_get?_finished fresh inside registered with earlier | ⟨rfl, rfl⟩
  · exact (reached other found earlier).later before
  · exact own

/-- A name registered with the reference to a component is a component that points to it. -/
theorem pointsTo (reached : AllReached schemas t) (ended : Ended schemas number contract final)
    (before : t.Before final) {other : String}
    (found : t.registry.get? name = some (.reference other))
    (held : schemas.value.holds other = .ok true) :
    schemas.value.holds name = .ok true ∧ PointsTo schemas name other := by
  cases reached name _ found with
  | record apart isRecord => cases isRecord
  | @component schema s u builds led earlier =>
      refine ⟨holds_of_componentSchema builds.parsed, ?_⟩
      have last := builds.before.trans (earlier.trans before)
      have mentions : Mentions schemas schema other := by
        have derived := builds.inside
        generalize same : Ty.reference other = type at derived
        cases derived with
        | namedOther record merge union inside =>
            subst same
            exact .self (inside.refers_of_schema ended held last)
        | namedUnion =>
            unfold namedUnion at same
            split at same <;> cases same
        | namedMerge kind inside merge => cases merge <;> cases same
        | namedRecord => cases same
      exact mentions.pointsTo builds.parsed

/-- A chain of references to a component goes from component to component. -/
theorem of_chain (reached : AllReached schemas t) (ended : Ended schemas number contract final)
    (before : t.Before final) {first last : String} (chain : Chain t.registry first last)
    (held : schemas.value.holds last = .ok true) :
    schemas.value.holds first = .ok true ∧ ReflTransGen (PointsTo schemas) first last := by
  induction chain using ReflTransGen.head_induction_on with
  | refl => exact ⟨held, .refl⟩
  | head step _ ih =>
      obtain ⟨points, way⟩ := reached.pointsTo ended before step ih.1
      exact ⟨points, .head way ih.2⟩

end AllReached

/-! ## Translations -/

/-- What the types of typed members are stripped to is led to, if all that the `allOf`
mentions is. -/
theorem Derives.led_of_typed (ended : Ended schemas number contract final) {merge : Option String}
    (each : Derives schemas (.each (typedParts merge 1 schema.members) s types t))
    (before : t.Before final)
    (below : ∀ name, schemas.value.holds name = .ok true → Mentions schemas schema name →
      Led schemas s name) (name : String) (held : schemas.value.holds name = .ok true)
    (bare : ∃ type ∈ types, bareMember type = .reference name) : Led schemas t name := by
  obtain ⟨type, member, same⟩ := bare
  obtain ⟨inner, among, context, u, v, earlier, own⟩ := each.of_typed member
  have mentions := own.mentions ended held (earlier.trans before) same
  exact (below name held (.child (.member among) mentions)).grows each.grows

/-- What a part of a translation registers was reached, if all it refers to is led to. -/
theorem Derives.reached (ended : Ended schemas number contract final)
    (derived : Derives schemas judgement) (before : judgement.finish.Before final)
    (below : judgement.Below schemas) (start : AllReached schemas judgement.start) :
    AllReached schemas judgement.finish := by
  unfold Judgement.Below at below
  induction derived with simp only [Judgement.start, Judgement.finish, Judgement.Mentions] at *
  | nilable inside ih => exact ih before below start
  | scalar | untyped | openMap | hoistedBefore | any | eachNil | fieldsNil | known | settled
  | sourcesNil => exact start
  | unresolved | unsupported => exact start.noted rfl rfl
  | reference kind leads registered atUse ih =>
      refine ih before ?_ start
      rintro _ held rfl
      exact below _ held (.self ⟨kind, leads⟩)
  | array kind items inside ih =>
      exact ih before (fun other held mentions => below other held (.child (.item items) mentions)) start
  | map kind properties additional inside ih =>
      exact ih before
        (fun other held mentions => below other held (.child (.value additional) mentions)) start
  | record kind properties inside described ih | namedRecord kind properties inside described ih =>
      refine ih before ?_ start
      rintro other held ⟨property, member, mentions⟩
      exact below other held (.child (.property member) mentions)
  | @hoisted schema context name s t fields text kind properties contextual anew unique inside
      described ih =>
      have hoists : HoistsRecord schemas schema context name s fields text t :=
        ⟨kind, properties, unique, inside, described⟩
      have last : t.Before final := hoists.before.trans before
      have apart : schemas.value.holds name ≠ .ok true :=
        ended.chronicle.apart (last.hoisted.subset hoists.given)
      refine (ih last ?_ start.hoisting).finished hoists.fresh inside.grows (.record apart rfl)
      rintro other held ⟨property, member, mentions⟩
      exact (below other held (.child (.property member) mentions)).hoisting apart
  | union kind inside ih =>
      refine ih before ?_ start
      rintro other held ⟨part, among, mentions⟩
      exact forall_unionParts (fun member inside mentions =>
        below other held (.child (.member inside) mentions)) part among mentions
  | allOf kind inside merge ihInside ihMerge
  | namedMerge kind inside merge ihInside ihMerge =>
      have middle := merge.grows.before.trans before
      refine ihMerge before (inside.led_of_typed ended middle below) (ihInside middle ?_ start)
      rintro other held ⟨part, among, mentions⟩
      exact forall_typedParts (fun member inside mentions =>
        below other held (.child (.member inside) mentions)) part among mentions
  | eachCons head tail ihHead ihTail =>
      have middle := tail.grows.before.trans before
      refine ihTail before ?_ (ihHead middle
        (fun other held mentions => below other held ⟨_, List.mem_cons_self, mentions⟩) start)
      rintro other held ⟨part, among, mentions⟩
      exact (below other held ⟨part, List.mem_cons_of_mem _ among, mentions⟩).grows head.grows
  | fieldsCons head described tail ihHead ihTail =>
      have middle := tail.grows.before.trans before
      refine ihTail before ?_ (ihHead middle
        (fun other held mentions => below other held ⟨_, List.mem_cons_self, mentions⟩) start)
      rintro other held ⟨property, among, mentions⟩
      exact (below other held ⟨property, List.mem_cons_of_mem _ among, mentions⟩).grows head.grows
  | @built name schema s t type fresh parsed inside ih =>
      have builds : BuildsComponent schemas name schema s type t := ⟨fresh, parsed, inside⟩
      have led : Led schemas s name := below name (holds_of_componentSchema parsed) rfl
      refine (ih (builds.before.trans before) (fun other held mentions => ?_) start.begun).finished
        fresh inside.grows (.component builds led (.refl _))
      exact led.begun (mentions.pointsTo parsed)
  | namedUnion kind inside ih =>
      refine ih before ?_ start
      rintro other held ⟨part, among, mentions⟩
      exact forall_numberedParts (fun member inside mentions =>
        below other held (.child (.member inside) mentions)) part among mentions
  | namedOther record merge union inside ih => exact ih before below start
  | @rebuilt name schema type source s t meets rebuilds parsed inside ih =>
      -- the component in progress is reached from the reference that the merge strips
      have last : t.Before final := before.of_noted rfl rfl
      have first : s.Before final := (inside.grows.before.trans last).of_noted rfl rfl
      obtain ⟨named, same, chain⟩ := chain_of_follow meets
      obtain ⟨held, way⟩ := start.of_chain ended first chain rebuilds.2.1
      have led : Led schemas s named := below named held same
      refine (ih last (fun other held mentions => ?_) (start.noted rfl rfl)).noted rfl rfl
      intro ancestor member isComponent
      have points : PointsTo schemas name other := mentions.pointsTo parsed
      exact ((led ancestor member isComponent).trans_left way).tail points
  | sourcesCons head tail ihHead ihTail =>
      have middle := tail.grows.before.trans before
      refine ihTail before ?_ (ihHead middle
        (fun other held bare => below other held ⟨_, List.mem_cons_self, bare⟩) start)
      rintro other held ⟨type, among, bare⟩
      exact (below other held ⟨type, List.mem_cons_of_mem _ among, bare⟩).grows head.grows
  | merged inside records described ih | wrapped inside mixed ih => exact ih before below start
  | refused inside mixed several ih =>
      exact (ih (before.of_noted rfl rfl) below start).noted rfl rfl

/-- While nothing is in progress, a translation may refer to anything. -/
theorem Derives.reached_of_idle (ended : Ended schemas number contract judgement.start)
    (derived : Derives schemas judgement) (stand : judgement.Stand number contract)
    (start : AllReached schemas judgement.start) : AllReached schemas judgement.finish := by
  refine derived.reached (ended.derived derived stand) (.refl _) (fun name held mentions => ?_) start
  intro ancestor member
  rw [ended.idle] at member
  cases member

/-- A registered component was built while all components in progress led to it. -/
theorem AllReached.exists_builds (reached : AllReached schemas t)
    (found : t.registry.get? name = some type)
    (parsed : componentSchema schemas name = .ok schema) :
    ∃ s u, BuildsComponent schemas name schema s type u ∧ Led schemas s name ∧
      (Run.finished u name type).Before t := by
  cases reached name type found with
  | record apart => exact absurd (holds_of_componentSchema parsed) apart
  | component builds led before =>
      cases parsed.symm.trans builds.parsed
      exact ⟨_, _, builds, led, before⟩

end Translation

namespace Translator

open Translation

variable {number : Nat} {contract : Json} {translator : Translator} {s : Session}

/-- Whatever a translator has registered was reached. -/
theorem SessionOf.reached (stands : SessionOf number contract translator s) :
    AllReached translator.schemas s := by
  induction stands with
  | @components s t u done fresh new created registered =>
      have document := Contract.stands_schemas Node.stands_root (returns_create created).1
      have reserves := reserves_create created (object_of_components created registered)
      have sound := sound_create created
      obtain ⟨-, -, names, -, rfl⟩ := returns_create created
      have each : ∀ {name : String} {s : Session} {type : Ty} {t : Session},
          Ended translator.schemas number contract s ∧ AllReached translator.schemas s →
          Run.Returns (translator.component name) s type t →
          Ended translator.schemas number contract t ∧ AllReached translator.schemas t := by
        intro name s type t ⟨ended, reached⟩ returned
        have derived := sound.component returned
        exact ⟨ended.derived derived trivial, derived.reached_of_idle ended trivial reached⟩
      refine (components_induction each registered
        ⟨.empty document reserves ?_ ?_ new, fun name type found => ?_⟩).2
      · rw [fresh]
        rfl
      · rw [fresh]
        rfl
      · rw [fresh] at found
        cases found
  | translated earlier stands returned ih =>
      obtain ⟨schema, parsed, derived⟩ := derives_translateNode earlier.sound returned
      exact derived.reached_of_idle earlier.ended ⟨_, stands, .of_parse parsed⟩ ih

end Translator

end TypedContract
