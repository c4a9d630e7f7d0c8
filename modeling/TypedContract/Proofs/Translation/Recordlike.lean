/-
# TypedContract.Proofs.Translation.Recordlike -- which members merge, read off the schemas

Whether an `allOf` becomes a record depends on what its members have become by then.
`Recordlike` reads the same off the schemas alone: a schema stands for a record
plainly, as a member of an `allOf` (where it may add nothing or be the only
alternative), as a component, or as the members of an `allOf` taken together.

A merge never takes more than that: whatever a run merges is recordlike
(`Derives.leadsToRecords`).  The converse fails for a component that is found while it is being
rebuilt, which is then taken for no record.
-/
import TypedContract.Proofs.Steps
import TypedContract.Proofs.Translation.Growth
import TypedContract.Proofs.Ty.References

namespace TypedContract.Translation

set_option autoImplicit false

open Schema

variable {schemas : Node}

/-! ## Schemas that stand for records -/

/-- In which role a schema stands for a record. -/
inductive Role where
  /-- Its type is a record or refers to one. -/
  | plain (schema : Schema)
  /-- Its type is one once nothing is stripped from a union. -/
  | member (schema : Schema)
  /-- The component is registered with a record or refers to one. -/
  | component (name : String)
  /-- The members of an `allOf` merge. -/
  | members (members : List Schema)

/-- A schema stands for a record in a role. -/
inductive Recordlike (schemas : Node) : Role → Prop where
  | object {schema : Schema} (kind : schema.facts.kind = .object)
      (properties : schema.properties ≠ []) (some_ : schema.facts.nullable = false) :
      Recordlike schemas (.plain schema)
  | reference {schema : Schema} {name : String} (kind : schema.facts.kind = .reference)
      (leads : target? schemas schema.facts = .ok (some name))
      (some_ : schema.facts.nullable = false) (atUse : admitsNilAtUse schemas name = .ok false)
      (component : Recordlike schemas (.component name)) : Recordlike schemas (.plain schema)
  | allOf {schema : Schema} (kind : schema.facts.kind = .allOf)
      (some_ : schema.facts.nullable = false)
      (members : Recordlike schemas (.members schema.members)) :
      Recordlike schemas (.plain schema)
  | objectMember {schema : Schema} (kind : schema.facts.kind = .object)
      (properties : schema.properties ≠ []) : Recordlike schemas (.member schema)
  | referenceMember {schema : Schema} {name : String} (kind : schema.facts.kind = .reference)
      (leads : target? schemas schema.facts = .ok (some name))
      (component : Recordlike schemas (.component name)) : Recordlike schemas (.member schema)
  | allOfMember {schema : Schema} (kind : schema.facts.kind = .allOf)
      (members : Recordlike schemas (.members schema.members)) :
      Recordlike schemas (.member schema)
  | unionMember {schema only : Schema} (kind : schema.facts.kind = .union)
      (single : schema.members = [only]) (some_ : schema.facts.nullable = false)
      (plain : Recordlike schemas (.plain only)) : Recordlike schemas (.member schema)
  | componentObject {name : String} {schema : Schema}
      (parsed : componentSchema schemas name = .ok schema) (kind : schema.facts.kind = .object)
      (properties : schema.properties ≠ []) : Recordlike schemas (.component name)
  | componentMerge {name : String} {schema : Schema}
      (parsed : componentSchema schemas name = .ok schema) (kind : schema.facts.kind = .allOf)
      (members : Recordlike schemas (.members schema.members)) :
      Recordlike schemas (.component name)
  | componentAlias {name : String} {schema : Schema}
      (parsed : componentSchema schemas name = .ok schema)
      (plain : Recordlike schemas (.plain schema)) : Recordlike schemas (.component name)
  | members {members : List Schema} (typed : members.filter (!·.isNote) ≠ [])
      (each : ∀ member ∈ members.filter (!·.isNote), Recordlike schemas (.member member)) :
      Recordlike schemas (.members members)

/-- The members of the `allOf` merge into one record. -/
def Merges (schemas : Node) (schema : Schema) : Prop :=
  schema.facts.kind = .allOf ∧ Recordlike schemas (.members schema.members)

/-! ## Types that lead to records -/

/-- The type is a record or refers to a component that stands for one. -/
def LeadsToRecord (schemas : Node) : Ty → Prop
  | .record _ _ _ => True
  | .reference name =>
      schemas.value.holds name = .ok true → Recordlike schemas (.component name)
  | _ => False

/-- What is registered for a component is a record only if the component stands for
one. -/
def LeadsRightly (schemas : Node) (registry : Registry) : Prop :=
  ∀ name type, registry.get? name = some type → schemas.value.holds name = .ok true →
    LeadsToRecord schemas type → Recordlike schemas (.component name)

/-- The names of all components are reserved. -/
def ReservesComponents (schemas : Node) (registry : Registry) : Prop :=
  ∀ name, schemas.value.holds name = .ok true → name ∈ registry.reserved

theorem leads_of_isRecord {type : Ty} (record : type.isRecord = true) :
    LeadsToRecord schemas type := by
  cases type with
  | record => trivial
  | _ => cases record

theorem not_nilable_of_leads {type : Ty} (leads : LeadsToRecord schemas type) :
    type.isNilable = false ∧ type.isNil = false ∧ bareMember type = type := by
  cases type with
  | record | reference => exact ⟨rfl, rfl, rfl⟩
  | _ => cases leads

/-- A union may lead to a record only once it is stripped. -/
theorem leads_withNil {nullable : Bool} {type : Ty}
    (leads : LeadsToRecord schemas (withNil nullable type)) :
    nullable = false ∧ LeadsToRecord schemas type := by
  unfold withNil at leads
  cases nullable with
  | false => exact ⟨rfl, leads⟩
  | true =>
      cases nilable : type.isNilable with
      | false => simp [nilable, LeadsToRecord] at leads
      | true =>
          simp only [nilable, Bool.not_true, Bool.and_false, Bool.false_eq_true, if_false] at leads
          rw [(not_nilable_of_leads leads).1] at nilable
          cases nilable

theorem isNil_of_isNilable_false {type : Ty} (some_ : type.isNilable = false) :
    type.isNil = false := by
  cases type with
  | primitive p => simpa [Ty.isNilable, Ty.isNil] using some_
  | _ => rfl

/-- The added nil is stripped again; else the type is left to be stripped itself. -/
theorem leads_bareMember_withNil {nullable : Bool} {type : Ty}
    (leads : LeadsToRecord schemas (bareMember (withNil nullable type))) :
    LeadsToRecord schemas type ∨
      ((nullable = false ∨ type.isNilable = true) ∧ LeadsToRecord schemas (bareMember type)) := by
  unfold withNil at leads
  split at leads
  · rename_i adds
    simp only [Bool.and_eq_true, Bool.not_eq_true'] at adds
    have kept : [type, Ty.nil].filter (!·.isNil) = [type] := by
      rw [List.filter_cons_of_pos (by simp [isNil_of_isNilable_false adds.2])]
      rfl
    rw [bareMember] at leads
    simp only [kept] at leads
    exact .inl leads
  · rename_i keeps
    refine .inr ⟨?_, leads⟩
    cases nullable with
    | false => exact .inl rfl
    | true => exact .inr (by simpa using keeps)

/-- A stripped union leads to a record only through its single member. -/
theorem leads_bareMember_union {types : List Ty}
    (leads : LeadsToRecord schemas (bareMember (.union none types))) :
    ∃ only, types.filter (!·.isNil) = [only] ∧ LeadsToRecord schemas only := by
  unfold bareMember at leads
  dsimp only at leads
  split at leads
  · rename_i only single
    exact ⟨only, single, leads⟩
  · cases leads

/-- Following references to a record starts at a type that leads to one. -/
theorem leads_of_follow {registry : Registry} (rightly : LeadsRightly schemas registry)
    {seen : List String} {bound : Nat} {type : Ty}
    (leads : LeadsToRecord schemas (registry.follow seen bound type)) :
    LeadsToRecord schemas type := by
  induction bound generalizing seen type with
  | zero => cases type <;> exact leads
  | succ bound ih =>
      cases type with
      | reference name =>
          unfold Registry.follow at leads
          split at leads
          · exact leads
          · split at leads
            · rename_i target found
              exact fun held => rightly name target found held (ih leads)
            · exact leads
      | _ => exact leads

theorem leads_of_resolve {registry : Registry} (rightly : LeadsRightly schemas registry)
    {type : Ty} (leads : LeadsToRecord schemas (registry.resolve type)) :
    LeadsToRecord schemas type :=
  leads_of_follow rightly leads

/-! ## A merge takes no more than the schemas show -/

/-- The type of a schema leads to a record only where the schema stands for one. -/
structure LeadsAs (schemas : Node) (schema : Schema) (type : Ty) : Prop where
  some_ : type.isNil = false
  plain : LeadsToRecord schemas type → Recordlike schemas (.plain schema)
  member : LeadsToRecord schemas (bareMember type) → Recordlike schemas (.member schema)

/-- The combination of the members is a record when each of them leads to one; else it
wraps its only member or is unknown. -/
def CombinedLeads (schemas : Node) (name : Option String) (types : List Ty) (type : Ty) : Prop :=
  (type.isRecord = true ∧ types ≠ [] ∧ ∀ type ∈ types, LeadsToRecord schemas (bareMember type)) ∨
    (∃ only, types = [only] ∧ type = .union name [only]) ∨ ∃ reason, type = .unknown reason

/-- What a part of a translation gives leads to records only where its schemas stand for
them. -/
def Judgement.LeadsToRecords (schemas : Node) : Judgement → Prop
  | .schema subject _ _ type _ => LeadsAs schemas subject type
  | .bare subject _ _ type _ => LeadsAs schemas subject (withNil subject.facts.nullable type)
  | .each parts _ types _ =>
      List.Forall₂ (fun part type => LeadsAs schemas part.1 type) parts types
  | .named name subject _ type _ => componentSchema schemas name = .ok subject →
      LeadsToRecord schemas type → Recordlike schemas (.component name)
  | .source type _ found _ => found.isRecord = true → LeadsToRecord schemas (bareMember type)
  | .sources types _ found _ => types.length = found.length ∧
      (found.all Ty.isRecord = true → ∀ type ∈ types, LeadsToRecord schemas (bareMember type))
  | .combined _ name types _ type _ => CombinedLeads schemas name types type
  | .fields _ _ _ _ _ _ | .component _ _ _ _ => True

/-- A type that is neither a record nor stripped to one leads nowhere. -/
theorem LeadsAs.nowhere {schema : Schema} {type : Ty} (some_ : type.isNil = false)
    (apart : ¬ LeadsToRecord schemas type) (stripped : ¬ LeadsToRecord schemas (bareMember type)) :
    LeadsAs schemas schema (withNil schema.facts.nullable type) := by
  refine ⟨?_, fun leads => absurd (leads_withNil leads).2 apart, fun leads => ?_⟩
  · unfold withNil
    split
    · rfl
    · exact some_
  · rcases leads_bareMember_withNil leads with inside | ⟨-, inside⟩
    · exact absurd inside apart
    · exact absurd inside stripped

/-- A type that stands for a record where its schema does. -/
theorem LeadsAs.withNil {schema : Schema} {type : Ty} (some_ : type.isNil = false)
    (bare : bareMember type = type)
    (plain : schema.facts.nullable = false → LeadsToRecord schemas type →
      Recordlike schemas (.plain schema))
    (member : LeadsToRecord schemas type → Recordlike schemas (.member schema)) :
    LeadsAs schemas schema (withNil schema.facts.nullable type) := by
  refine ⟨?_, fun leads => ?_, fun leads => ?_⟩
  · unfold Translation.withNil
    split
    · rfl
    · exact some_
  · exact plain (leads_withNil leads).1 (leads_withNil leads).2
  · rcases leads_bareMember_withNil leads with inside | ⟨-, inside⟩
    · exact member inside
    · exact member (bare ▸ inside)

theorem leadsRightly_finished {s t : Session} {name : String} {type : Ty}
    (fresh : s.registry.contains name = false) (grows : (Run.begun s name).Grows t)
    (rightly : LeadsRightly schemas t.registry)
    (own : schemas.value.holds name = .ok true → LeadsToRecord schemas type →
      Recordlike schemas (.component name)) :
    LeadsRightly schemas (Run.finished t name type).registry := by
  intro other found registered held leads
  rcases Session.Grows.of_get?_finished fresh grows registered with earlier | ⟨rfl, rfl⟩
  · exact rightly other found earlier held leads
  · exact own held leads

theorem ReservesComponents.grows {s t : Session} (reserves : ReservesComponents schemas s.registry)
    (grows : s.Grows t) : ReservesComponents schemas t.registry := by
  intro name held
  rw [grows.reserved]
  exact reserves name held

theorem holds_of_target {facts : Facts} {name : String}
    (leads : target? schemas facts = .ok (some name)) : schemas.value.holds name = .ok true := by
  unfold target? at leads
  cases ref : facts.refName with
  | error fault => simp [ref, bind, Except.bind] at leads
  | ok found? =>
      cases found? with
      | none => simp [ref, bind, Except.bind, pure, Except.pure] at leads
      | some found =>
          cases held : schemas.value.holds found with
          | error fault => simp [ref, held, bind, Except.bind] at leads
          | ok present =>
              cases present with
              | true =>
                  simp [ref, held, bind, Except.bind, pure, Except.pure] at leads
                  exact leads ▸ held
              | false => simp [ref, held, bind, Except.bind, pure, Except.pure] at leads

theorem scalarOf_ne_nil {kind : Kind} {format : String} : scalarOf kind format ≠ .nil := by
  unfold scalarOf
  split <;> exact nofun

theorem scalar_some {facts : Facts} {type : Ty} (typed : scalar facts = .ok type) :
    type.isNil = false ∧ bareMember type = type ∧ ¬ LeadsToRecord schemas type := by
  obtain ⟨values?, -, rfl⟩ := scalar_eq_ok typed
  exact ⟨by simp [Ty.isNil, scalar_of.1, scalarOf_ne_nil], rfl, id⟩

theorem leadsAs_union {schema : Schema} {context : String} {types : List Ty}
    (kind : schema.facts.kind = .union)
    (each : List.Forall₂ (fun part type => LeadsAs schemas part.1 type)
      (unionParts context 1 schema.members) types) :
    LeadsAs schemas schema (withNil schema.facts.nullable (.union none types)) := by
  rw [← List.forall₂_map_left_iff, map_fst_unionParts] at each
  refine ⟨?_, fun leads => absurd (leads_withNil leads).2 id, fun leads => ?_⟩
  · unfold withNil
    split <;> rfl
  · rcases leads_bareMember_withNil leads with apart | ⟨kept, inside⟩
    · exact absurd apart id
    · obtain ⟨only, single, leadsOnly⟩ := leads_bareMember_union inside
      have all : types.filter (!·.isNil) = types := by
        refine List.filter_eq_self.2 fun type member => ?_
        obtain ⟨part, -, leadsAs⟩ := exists_of_forall₂_right each member
        simp [leadsAs.some_]
      rw [all] at single
      subst single
      obtain ⟨part, rest, leadsAs, ends, members⟩ := List.forall₂_cons_right_iff.1 each
      rw [List.forall₂_nil_right_iff.1 ends] at members
      refine .unionMember kind members ?_ (leadsAs.plain leadsOnly)
      rcases kept with some_ | nilable
      · exact some_
      · simp [Ty.isNilable, Ty.anyNilable, (not_nilable_of_leads leadsOnly).1] at nilable

/-- When all typed members lead to records, they merge. -/
theorem recordlike_members {name : Option String} {members : List Schema} {types : List Ty}
    (each : List.Forall₂ (fun part type => LeadsAs schemas part.1 type)
      (typedParts name 1 members) types)
    (some_ : types ≠ []) (leads : ∀ type ∈ types, LeadsToRecord schemas (bareMember type)) :
    Recordlike schemas (.members members) := by
  rw [← List.forall₂_map_left_iff, map_fst_typedParts] at each
  refine .members ?_ fun member inside => ?_
  · intro none
    rw [none] at each
    exact some_ (List.forall₂_nil_left_iff.1 each)
  · obtain ⟨type, held, leadsAs⟩ := exists_of_forall₂_left each inside
    exact leadsAs.member (leads type held)

theorem leadsAs_allOf {schema : Schema} {context : String} {types : List Ty} {type : Ty}
    (kind : schema.facts.kind = .allOf)
    (each : List.Forall₂ (fun part type => LeadsAs schemas part.1 type)
      (typedParts (mergeName context) 1 schema.members) types)
    (merge : CombinedLeads schemas (mergeName context) types type) :
    LeadsAs schemas schema (withNil schema.facts.nullable type) := by
  rcases merge with ⟨record, some_, leads⟩ | ⟨only, rfl, rfl⟩ | ⟨reason, rfl⟩
  · have merges : Recordlike schemas (.members schema.members) :=
      recordlike_members each some_ leads
    cases type with
    | record =>
        exact .withNil rfl rfl (fun some_ _ => .allOf kind some_ merges)
          fun _ => .allOfMember kind merges
    | _ => cases record
  · -- a single member gives a union of it, which leads on only where it has no name
    refine ⟨?_, fun leads => absurd (leads_withNil leads).2 id, fun leads => ?_⟩
    · unfold withNil
      split <;> rfl
    · rcases leads_bareMember_withNil leads with apart | ⟨-, inside⟩
      · exact absurd apart id
      · cases named : mergeName context with
        | some name =>
            rw [named] at inside
            exact absurd inside id
        | none =>
            rw [named] at inside
            obtain ⟨other, single, leadsOther⟩ := leads_bareMember_union inside
            obtain rfl : other = only := by
              have member : other ∈ [only].filter (!·.isNil) := by simp [single]
              exact List.mem_singleton.1 (List.mem_filter.1 member).1
            refine .allOfMember kind (recordlike_members each (List.cons_ne_nil _ _) ?_)
            intro type member
            obtain rfl := List.mem_singleton.1 member
            rwa [(not_nilable_of_leads leadsOther).2.2]
  · exact .nowhere rfl id id

/-- A reference leads to a record when its component does; with a nil beside it, only as a
member. -/
theorem leadsAs_reference {schema : Schema} {name : String} {nilable : Bool}
    (kind : schema.facts.kind = .reference) (leads : target? schemas schema.facts = .ok (some name))
    (atUse : admitsNilAtUse schemas name = .ok nilable) :
    LeadsAs schemas schema (withNil schema.facts.nullable (referenceType nilable name)) := by
  have held : schemas.value.holds name = .ok true := holds_of_target leads
  cases nilable with
  | false =>
      exact .withNil rfl rfl
        (fun some_ component => .reference kind leads some_ atUse (component held))
        fun component => .referenceMember kind leads (component held)
  | true =>
      refine ⟨by unfold withNil; split <;> rfl,
        fun leads => absurd (leads_withNil leads).2 id, fun found => ?_⟩
      rcases leads_bareMember_withNil found with apart | ⟨-, component⟩
      · exact absurd apart id
      · exact .referenceMember kind leads (component held)

/-- A run merges only what stands for records. -/
theorem Derives.leadsToRecords {judgement : Judgement} (derived : Derives schemas judgement)
    (reserves : ReservesComponents schemas judgement.start.registry)
    (rightly : LeadsRightly schemas judgement.start.registry) :
    LeadsRightly schemas judgement.finish.registry ∧ judgement.LeadsToRecords schemas := by
  induction derived with simp only [Judgement.start, Judgement.finish,
    Judgement.LeadsToRecords] at *
  | nilable inside ih => exact ih reserves rightly
  | scalar kind typed =>
      obtain ⟨some_, bare, apart⟩ := scalar_some typed
      exact ⟨rightly, .nowhere some_ apart (bare.symm ▸ apart)⟩
  | unresolved | any | unsupported => exact ⟨rightly, .nowhere rfl id id⟩
  | reference kind leads registered atUse ih =>
      exact ⟨(ih reserves rightly).1, leadsAs_reference kind leads atUse⟩
  | untyped | openMap => exact ⟨rightly, .nowhere rfl id id⟩
  | array kind items inside ih => exact ⟨(ih reserves rightly).1, .nowhere rfl id id⟩
  | map kind properties additional inside ih =>
      exact ⟨(ih reserves rightly).1, .nowhere rfl id id⟩
  | record kind properties inside described ih =>
      exact ⟨(ih reserves rightly).1,
        .withNil rfl rfl (fun some_ _ => .object kind properties some_)
          fun _ => .objectMember kind properties⟩
  | hoistedBefore kind properties contextual before =>
      exact ⟨rightly, .withNil rfl rfl (fun some_ _ => .object kind properties some_)
        fun _ => .objectMember kind properties⟩
  | @hoisted schema context name s t fields text kind properties contextual anew unique inside
      described ih =>
      obtain ⟨fresh, free⟩ := hoisting_unused unique schema.facts.node.place
      -- the names of components are reserved, so the new name is none of them
      refine ⟨leadsRightly_finished fresh inside.grows (ih reserves rightly).1 fun held _ => ?_,
        .withNil rfl rfl (fun some_ _ => .object kind properties some_)
          fun _ => .objectMember kind properties⟩
      exact absurd (reserves name held) free
  | union kind inside ih =>
      exact ⟨(ih reserves rightly).1, leadsAs_union kind (ih reserves rightly).2⟩
  | allOf kind inside merge ihInside ihMerge =>
      obtain ⟨middle, each⟩ := ihInside reserves rightly
      obtain ⟨after, combined⟩ := ihMerge (reserves.grows inside.grows) middle
      exact ⟨after, leadsAs_allOf kind each combined⟩
  | eachNil => exact ⟨rightly, .nil⟩
  | eachCons head tail ihHead ihTail =>
      obtain ⟨middle, first⟩ := ihHead reserves rightly
      obtain ⟨after, rest⟩ := ihTail (reserves.grows head.grows) middle
      exact ⟨after, .cons first rest⟩
  | fieldsNil => exact ⟨rightly, trivial⟩
  | fieldsCons head described tail ihHead ihTail =>
      obtain ⟨middle, -⟩ := ihHead reserves rightly
      exact ihTail (reserves.grows head.grows) middle
  | known found => exact ⟨rightly, trivial⟩
  | built fresh parsed inside ih =>
      obtain ⟨after, leads⟩ := ih reserves rightly
      exact ⟨leadsRightly_finished fresh inside.grows after fun _ => leads parsed, trivial⟩
  | namedRecord kind properties inside described ih =>
      exact ⟨(ih reserves rightly).1, fun parsed _ => .componentObject parsed kind properties⟩
  | namedMerge kind inside merge ihInside ihMerge =>
      obtain ⟨middle, each⟩ := ihInside reserves rightly
      obtain ⟨after, combined⟩ := ihMerge (reserves.grows inside.grows) middle
      refine ⟨after, fun parsed leads => .componentMerge parsed kind ?_⟩
      rcases combined with ⟨-, some_, leadsEach⟩ | ⟨only, rfl, rfl⟩ | ⟨reason, rfl⟩
      · exact recordlike_members each some_ leadsEach
      · exact absurd leads id
      · exact absurd leads id
  | namedUnion kind inside ih =>
      refine ⟨(ih reserves rightly).1, fun parsed leads => ?_⟩
      unfold Translation.namedUnion at leads
      split at leads <;> exact absurd leads id
  | namedOther record merge union inside ih =>
      obtain ⟨after, leadsAs⟩ := ih reserves rightly
      exact ⟨after, fun parsed leads => .componentAlias parsed (leadsAs.plain leads)⟩
  | @settled type s stays =>
      exact ⟨rightly, fun record => leads_of_resolve rightly (leads_of_isRecord record)⟩
  | rebuilt meets rebuilds parsed inside ih =>
      obtain ⟨after, leads⟩ := ih reserves rightly
      refine ⟨after, fun record => leads_of_resolve rightly ?_⟩
      rw [meets]
      exact fun _ => leads parsed (leads_of_isRecord record)
  | sourcesNil => exact ⟨rightly, trivial, fun _ _ member => absurd member List.not_mem_nil⟩
  | sourcesCons head tail ihHead ihTail =>
      obtain ⟨middle, first⟩ := ihHead reserves rightly
      obtain ⟨after, same, rest⟩ := ihTail (reserves.grows head.grows) middle
      refine ⟨after, by simp [same], fun records type member => ?_⟩
      simp only [List.all_cons, Bool.and_eq_true] at records
      rcases List.mem_cons.1 member with rfl | inside
      · exact first records.1
      · exact rest records.2 type inside
  | merged inside records described ih =>
      obtain ⟨after, same, leads⟩ := ih reserves rightly
      simp only [mergeable, Bool.and_eq_true, Bool.not_eq_true', List.isEmpty_eq_false_iff]
        at records
      refine ⟨after, .inl ⟨rfl, fun none => records.1 ?_, leads records.2⟩⟩
      rw [none] at same
      exact List.length_eq_zero_iff.1 same.symm
  | wrapped inside mixed ih => exact ⟨(ih reserves rightly).1, .inr (.inl ⟨_, rfl, rfl⟩)⟩
  | refused inside mixed several ih => exact ⟨(ih reserves rightly).1, .inr (.inr ⟨_, rfl⟩)⟩

end TypedContract.Translation
