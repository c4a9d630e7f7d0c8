/-
# TypedContract.Proofs.Translation.Closed -- references lead somewhere

References are handed out for names whose types are only being built.  `Closed`
says of a registry that each name a registered type refers to is registered or in
progress; a translation keeps that and its types refer to such names only
(`Derives.closed`).  When nothing is in progress any more, all of them are
registered (`Closed.registered`).
-/
import TypedContract.Proofs.Translation.Growth
import TypedContract.Proofs.Ty.References

namespace TypedContract

set_option autoImplicit false

namespace Translation

variable {schemas : Node}

/-- The types that a part of a translation is given. -/
def Judgement.given : Judgement → List Ty
  | .source type _ _ _ => [type]
  | .sources types _ _ _ => types
  | .combined _ _ types _ _ _ => types
  | _ => []

/-- The types that a part of a translation gives. -/
def Judgement.gives : Judgement → List Ty
  | .schema _ _ _ type _ | .bare _ _ _ type _ | .component _ _ type _ | .named _ _ _ type _
  | .source _ _ type _ | .combined _ _ _ _ type _ => [type]
  | .each _ _ types _ | .sources _ _ types _ => types
  | .fields _ _ _ _ found _ => found.map fun field => field.type

/-- Begun in a closed registry with types that it covers, the part ends in a closed
registry that covers the types it gives. -/
def Judgement.KeepsClosed (judgement : Judgement) : Prop :=
  judgement.start.registry.Closed →
    (∀ type ∈ judgement.given, judgement.start.registry.Covers type) →
      judgement.finish.registry.Closed ∧
        ∀ type ∈ judgement.gives, judgement.finish.registry.Covers type

theorem closed_begun {s : Session} {name : String} (closed : s.registry.Closed) :
    (Run.begun s name).registry.Closed := by
  intro entry member
  exact (closed entry member).mono fun _ held => Registry.contains_start held

theorem covers_referenceType {registry : Registry} {name : String} {nilable : Bool}
    (covers : registry.Covers (.reference name)) : registry.Covers (referenceType nilable name) := by
  unfold referenceType
  split
  · rw [Registry.covers_union_iff]
    simpa using ⟨covers, Registry.covers_primitive⟩
  · exact covers

theorem covers_namedUnion {registry : Registry} {name : String} {nullable : Bool} {types : List Ty}
    (covers : ∀ type ∈ types, registry.Covers type) :
    registry.Covers (namedUnion name nullable types) := by
  unfold namedUnion
  split
  · rw [Registry.covers_union_iff]
    simpa [or_imp, forall_and] using ⟨covers, Registry.covers_primitive⟩
  · exact Registry.covers_union_iff.2 covers

/-- A type that its registry covers may be registered. -/
theorem closed_finished {s t : Session} {name : String} {type : Ty}
    (fresh : s.registry.contains name = false) (grows : (Run.begun s name).Grows t)
    (closed : t.registry.Closed) (covers : t.registry.Covers type) :
    (Run.finished t name type).registry.Closed ∧
      (Run.finished t name type).registry.contains name = true ∧
      ∀ other, t.registry.Covers other → (Run.finished t name type).registry.Covers other := by
  have added : (Run.finished t name type).registry.entries =
      t.registry.entries ++ [(name, type)] := Session.Grows.entries_finished fresh grows
  have found : (Run.finished t name type).registry.get? name = some type :=
    Session.Grows.get?_finished fresh grows
  have kept : ∀ other, t.registry.contains other = true →
      (Run.finished t name type).registry.contains other = true :=
    fun other => Session.Grows.contains_finished fresh grows
  refine ⟨fun entry member => ?_, Registry.contains_iff.2 (.inl ⟨type, found⟩),
    fun other held => held.mono kept⟩
  rw [added] at member
  rcases List.mem_append.1 member with old | new
  · exact (closed entry old).mono kept
  · obtain rfl := List.mem_singleton.1 new
    exact covers.mono kept

/-- A translation keeps the registry closed and gives types that it covers. -/
theorem Derives.closed {judgement : Judgement} (derived : Derives schemas judgement) :
    judgement.KeepsClosed := by
  unfold Judgement.KeepsClosed
  induction derived with simp only [Judgement.start, Judgement.finish, Judgement.given,
      Judgement.gives, List.mem_singleton, forall_eq, List.not_mem_nil, false_imp_iff,
      implies_true, forall_const, and_true, List.forall_mem_map] at *
  | nilable inside ih => exact fun closed => ⟨(ih closed).1, covers_withNil (ih closed).2⟩
  | scalar kind typed =>
      obtain ⟨values?, -, rfl⟩ := scalar_eq_ok typed
      exact fun closed => ⟨closed, Registry.covers_primitive⟩
  | unresolved | unsupported | any => exact fun closed => ⟨closed, Registry.covers_unknown⟩
  | @reference schema context name s t known nilable kind leads registered atUse ih =>
      intro closed
      -- a component that is still in progress counts as registered here
      have covers : t.registry.Covers (.reference name) :=
        Registry.covers_reference_iff.2 registered.contains
      exact ⟨(ih closed).1, covers_referenceType covers⟩
  | untyped | openMap =>
      exact fun closed => ⟨closed, fun name member => by simp at member⟩
  | array kind items inside ih => exact ih
  | map kind properties additional inside ih => exact ih
  | record kind properties inside described ih =>
      exact fun closed => ⟨(ih closed).1, Registry.covers_record_iff.2 (ih closed).2⟩
  | hoistedBefore kind properties contextual before =>
      intro closed
      refine ⟨closed, Registry.covers_reference_iff.2 ?_⟩
      simp only [isHoisted, Bool.and_eq_true] at before
      exact before.2
  | @hoisted schema context name s t fields text kind properties contextual anew unique inside
      described ih =>
      intro closed
      have fresh := (hoisting_unused unique schema.facts.node.place).1
      obtain ⟨after, covers⟩ := ih (closed_begun closed)
      obtain ⟨stored, held, -⟩ := closed_finished fresh inside.grows after
        (Registry.covers_record_iff.2 covers : t.registry.Covers (.record (some name) fields text))
      exact ⟨stored, Registry.covers_reference_iff.2 held⟩
  | union kind inside ih =>
      exact fun closed => ⟨(ih closed).1, Registry.covers_union_iff.2 (ih closed).2⟩
  | allOf kind inside merge ihInside ihMerge =>
      exact fun closed => ihMerge (ihInside closed).1 (ihInside closed).2
  | eachNil | fieldsNil => exact id
  | eachCons head tail ihHead ihTail =>
      intro closed
      obtain ⟨middle, covers⟩ := ihHead closed
      obtain ⟨after, rest⟩ := ihTail middle
      refine ⟨after, ?_⟩
      simpa using ⟨covers.mono fun name => tail.grows.contains, rest⟩
  | fieldsCons head described tail ihHead ihTail =>
      intro closed
      obtain ⟨middle, covers⟩ := ihHead closed
      obtain ⟨after, rest⟩ := ihTail middle
      refine ⟨after, ?_⟩
      simpa [fieldOf] using ⟨covers.mono fun name => tail.grows.contains, rest⟩
  | @known name s type found =>
      intro closed
      refine ⟨closed, ?_⟩
      rcases Registry.enter_eq_inl_iff.1 found with found | ⟨-, building, rfl⟩
      · exact closed.get? found
      · exact Registry.covers_reference_iff.2 (Registry.contains_iff.2 (.inr building))
  | built fresh parsed inside ih =>
      intro closed
      obtain ⟨after, covers⟩ := ih (closed_begun closed)
      obtain ⟨stored, -, kept⟩ := closed_finished fresh inside.grows after covers
      exact ⟨stored, kept _ covers⟩
  | namedRecord kind properties inside described ih =>
      exact fun closed => ⟨(ih closed).1, Registry.covers_record_iff.2 (ih closed).2⟩
  | namedMerge kind inside merge ihInside ihMerge =>
      exact fun closed => ihMerge (ihInside closed).1 (ihInside closed).2
  | namedUnion kind inside ih =>
      exact fun closed => ⟨(ih closed).1, covers_namedUnion (ih closed).2⟩
  | namedOther record merge union inside ih => exact ih
  | settled stays => exact fun closed covers => ⟨closed, closed.resolve (covers_bareMember covers)⟩
  | rebuilt meets rebuilds parsed inside ih => exact fun closed _ => ih closed
  | sourcesNil => exact id
  | sourcesCons head tail ihHead ihTail =>
      intro closed covers
      simp only [List.mem_cons, forall_eq_or_imp] at covers
      obtain ⟨middle, source⟩ := ihHead closed covers.1
      obtain ⟨after, rest⟩ := ihTail middle
        fun type member => (covers.2 type member).mono fun name => head.grows.contains
      refine ⟨after, ?_⟩
      simpa using ⟨source.mono fun name => tail.grows.contains, rest⟩
  | merged inside records described ih =>
      intro closed covers
      obtain ⟨after, sources⟩ := ih closed covers
      exact ⟨after, Registry.covers_record_iff.2 fun field => covers_mergeFields sources⟩
  | wrapped inside mixed ih =>
      intro closed covers
      obtain ⟨after, -⟩ := ih closed covers
      refine ⟨after, ?_⟩
      rw [Registry.covers_union_iff]
      have later := covers.mono fun name => inside.grows.contains
      simpa [Judgement.start, Judgement.finish] using later
  | refused inside mixed several ih =>
      exact fun closed covers => ⟨(ih closed covers).1, Registry.covers_unknown⟩

end Translation

end TypedContract
