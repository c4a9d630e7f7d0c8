/-
# TypedContract.Proofs.Translation.Finished -- translating when all is registered

A session is finished when every component is registered, nothing is in progress and
nothing was hoisted.  From there on a translation that hoists nothing leaves the registry
as it is and gives the type over it (`Derives.over`), and the program gives every type
there is over the registry (`gives_translate`).
-/
import TypedContract.Proofs.Translation.Chronicle
import TypedContract.Proofs.Translation.Over

namespace TypedContract.Translation

set_option autoImplicit false

open Schema

variable {schemas : Node} {s t : Session}

/-- Every component is registered and nothing is left to do. -/
structure Finished (schemas : Node) (s : Session) : Prop where
  idle : s.registry.building = []
  unhoisted : s.hoisted = []
  registered : ∀ name, schemas.value.holds name = .ok true →
    ∃ type, s.registry.get? name = some type

namespace Finished

variable (finished : Finished schemas s)

include finished

theorem inProgress (name : String) : s.registry.inProgress name = false := by
  rw [Registry.inProgress, finished.idle]
  rfl

theorem not_isHoisted {name : String} {place : Option Place} :
    isHoisted s name place = false := by
  simp [isHoisted, finished.unhoisted]

theorem later (same : t.registry = s.registry) (unhoisted : t.hoisted = []) :
    Finished schemas t :=
  ⟨same ▸ finished.idle, unhoisted, same ▸ finished.registered⟩

end Finished

/-! ## What a derivation gives -/

/-- A part of a translation gives what there is over the registry it starts with. -/
def Judgement.Over (schemas : Node) : Judgement → Prop
  | .schema subject context s type _ => typeOver schemas s.registry subject context = some type
  | .bare subject context s type _ => bareOver schemas s.registry subject context = some type
  | .each parts s types _ => parts.mapM (partOver schemas s.registry) = some types
  | .fields name required properties s found _ =>
      fieldsOver schemas s.registry name required properties = some found
  | .named name subject s type _ => namedOver schemas s.registry name subject = some type
  | .source type s found _ => found = s.registry.resolve (bareMember type)
  | .sources types s found _ => found = sourcesOver s.registry types
  | .combined facts name types s type _ => combineOver s.registry facts name types = some type
  | .component _ _ _ _ => True

theorem hoisted_nil_of_grows {s t : Session} (grows : s.Grows t) (none : t.hoisted = []) :
    s.hoisted = [] :=
  List.suffix_nil.1 (none ▸ grows.hoisted)

/-- When all is registered, a translation that hoists nothing only reads. -/
theorem Derives.over {judgement : Judgement} (derived : Derives schemas judgement)
    (finished : Finished schemas judgement.start) (unhoisted : judgement.finish.hoisted = []) :
    judgement.finish.registry = judgement.start.registry ∧ judgement.Over schemas := by
  induction derived with simp only [Judgement.start, Judgement.finish, Judgement.Over] at *
  | nilable inside ih =>
      obtain ⟨same, yields⟩ := ih finished unhoisted
      refine ⟨same, ?_⟩
      rw [typeOver_eq, yields]
      rfl
  | @scalar schema context s type kind typed =>
      refine ⟨trivial, ?_⟩
      unfold bareOver
      cases found : schema.facts.kind <;> rw [found] at kind <;>
        first | exact toOption_eq_some.2 typed | cases kind
  | unresolved kind nowhere =>
      refine ⟨rfl, ?_⟩
      simp only [bareOver, kind, referenceOver, nowhere]
  | reference kind leads registered atUse ih =>
      obtain ⟨same, -⟩ := ih finished unhoisted
      exact ⟨same, (bareOver_reference kind leads).2 ⟨_, atUse, rfl⟩⟩
  | untyped kind items =>
      refine ⟨trivial, ?_⟩
      simp only [bareOver, kind, items]
  | array kind items inside ih =>
      obtain ⟨same, yields⟩ := ih finished unhoisted
      refine ⟨same, ?_⟩
      simp only [bareOver, kind, items, yields]
      rfl
  | openMap kind properties additional =>
      refine ⟨trivial, ?_⟩
      simp only [bareOver, kind, properties, additional, List.isEmpty_nil, if_true]
  | map kind properties additional inside ih =>
      obtain ⟨same, yields⟩ := ih finished unhoisted
      refine ⟨same, ?_⟩
      simp only [bareOver, kind, properties, additional, yields, List.isEmpty_nil, if_true]
      rfl
  | record kind properties inside described ih =>
      obtain ⟨same, yields⟩ := ih finished unhoisted
      exact ⟨same, (bareOver_object kind properties).2 ⟨rfl, _, _, yields, described, rfl⟩⟩
  | hoistedBefore kind properties contextual before =>
      rw [finished.not_isHoisted] at before
      cases before
  | @hoisted schema context name s t fields text kind properties contextual anew unique inside
      described ih =>
      -- what is hoisted stays noted, and at the end nothing is
      have none : (Run.begun (hoisting s name schema.facts.node.place) name).hoisted = [] :=
        hoisted_nil_of_grows inside.grows unhoisted
      cases none
  | union kind inside ih =>
      obtain ⟨same, yields⟩ := ih finished unhoisted
      exact ⟨same, (bareOver_union kind).2 ⟨_, yields, rfl⟩⟩
  | allOf kind inside merge ihInside ihMerge =>
      have middle := hoisted_nil_of_grows merge.grows unhoisted
      obtain ⟨same, yields⟩ := ihInside finished middle
      obtain ⟨same', combined⟩ := ihMerge (finished.later same middle) unhoisted
      exact ⟨same'.trans same, (bareOver_allOf kind).2 ⟨_, yields, same ▸ combined⟩⟩
  | any kind undeclared =>
      refine ⟨trivial, ?_⟩
      simp only [bareOver, kind, anyType, undeclared]
  | unsupported kind typed =>
      refine ⟨rfl, ?_⟩
      simp only [bareOver, kind, anyType, typed]
  | eachNil => exact ⟨trivial, rfl⟩
  | eachCons head tail ihHead ihTail =>
      have middle := hoisted_nil_of_grows tail.grows unhoisted
      obtain ⟨same, yields⟩ := ihHead finished middle
      obtain ⟨same', others⟩ := ihTail (finished.later same middle) unhoisted
      refine ⟨same'.trans same, ?_⟩
      rw [same] at others
      rw [List.mapM_cons, partOver, yields, others]
      rfl
  | fieldsNil => exact ⟨trivial, by rw [fieldsOver]⟩
  | fieldsCons head described tail ihHead ihTail =>
      have middle := hoisted_nil_of_grows tail.grows unhoisted
      obtain ⟨same, yields⟩ := ihHead finished middle
      obtain ⟨same', others⟩ := ihTail (finished.later same middle) unhoisted
      refine ⟨same'.trans same, ?_⟩
      rw [same] at others
      rw [fieldsOver, yields, others, toOption_eq_some.2 described]
      rfl
  | known found => exact ⟨trivial, trivial⟩
  | built fresh parsed inside ih =>
      -- every component is registered already, so none is built
      obtain ⟨type, found⟩ := finished.registered _ (holds_of_componentSchema parsed)
      rw [Registry.contains_iff.2 (.inl ⟨type, found⟩)] at fresh
      cases fresh
  | namedRecord kind properties inside described ih =>
      obtain ⟨same, yields⟩ := ih finished unhoisted
      exact ⟨same, (namedOver_object kind properties).2 ⟨_, _, yields, described, rfl⟩⟩
  | namedMerge kind inside merge ihInside ihMerge =>
      have middle := hoisted_nil_of_grows merge.grows unhoisted
      obtain ⟨same, yields⟩ := ihInside finished middle
      obtain ⟨same', combined⟩ := ihMerge (finished.later same middle) unhoisted
      exact ⟨same'.trans same, (namedOver_allOf kind).2 ⟨_, yields, same ▸ combined⟩⟩
  | namedUnion kind inside ih =>
      obtain ⟨same, yields⟩ := ih finished unhoisted
      refine ⟨same, ?_⟩
      simp only [namedOver, kind, yields]
      rfl
  | @namedOther name schema s t type record merge union inside ih =>
      obtain ⟨same, yields⟩ := ih finished unhoisted
      refine ⟨same, ?_⟩
      unfold namedOver
      cases kind : schema.facts.kind with
      | object => simp only [record kind, List.isEmpty_nil, if_true, yields]
      | allOf => exact absurd kind merge
      | union => exact absurd kind union
      | _ => exact yields
  | settled stays => exact ⟨trivial, trivial⟩
  | rebuilt meets rebuilds parsed inside ih =>
      -- only a component in progress is built anew, and there is none
      rw [Rebuilds, finished.inProgress] at rebuilds
      cases rebuilds.1
  | sourcesNil => exact ⟨trivial, rfl⟩
  | sourcesCons head tail ihHead ihTail =>
      have middle := hoisted_nil_of_grows tail.grows unhoisted
      obtain ⟨same, rfl⟩ := ihHead finished middle
      obtain ⟨same', rfl⟩ := ihTail (finished.later same middle) unhoisted
      exact ⟨same'.trans same, by rw [same]; rfl⟩
  | merged inside records described ih =>
      obtain ⟨same, rfl⟩ := ih finished unhoisted
      exact ⟨same, (combineOver_merged records).2 ⟨_, described, rfl⟩⟩
  | wrapped inside mixed ih =>
      obtain ⟨same, rfl⟩ := ih finished unhoisted
      refine ⟨same, ?_⟩
      unfold combineOver
      rw [if_neg (by simp [mixed])]
      rfl
  | refused inside mixed several ih =>
      obtain ⟨same, rfl⟩ := ih finished unhoisted
      refine ⟨same, ?_⟩
      unfold combineOver
      rw [if_neg (by simp [mixed])]
      unfold unmerged
      split
      · exact absurd rfl several
      · rfl

/-! ## What the program gives -/

/-- Begun when all is registered, the step comes back with the result and registers
nothing. -/
def Gives {α : Type} (schemas : Node) (registry : Registry) (step : Run α) (a : α) : Prop :=
  ∀ s, Finished schemas s → s.registry = registry →
    ∃ t, Finished schemas t ∧ t.registry = registry ∧ Run.Returns step s a t

namespace Gives

variable {α β : Type} {registry : Registry} {a : α} {b : β}

theorem pure (a : α) : Gives schemas registry (Pure.pure a) a :=
  fun s finished same => ⟨s, finished, same, Run.returns_pure.2 ⟨rfl, rfl⟩⟩

theorem lift {step : Except Fault α} (ok : step = .ok a) :
    Gives schemas registry (Run.lift step) a :=
  fun s finished same => ⟨s, finished, same, Run.returns_lift.2 ⟨ok, rfl⟩⟩

theorem report (code : Diagnostic.Code) (args : List String) :
    Gives schemas registry (Run.report code args) () :=
  fun s finished same => ⟨reported s code args, Finished.later finished rfl finished.unhoisted, same,
    Run.returns_report.2 rfl⟩

theorem bind {step : Run α} {next : α → Run β} (first : Gives schemas registry step a)
    (second : Gives schemas registry (next a) b) : Gives schemas registry (step >>= next) b := by
  intro s finished same
  obtain ⟨t, finished', same', returned⟩ := first s finished same
  obtain ⟨u, finished'', same'', returned'⟩ := second t finished' same'
  exact ⟨u, finished'', same'', Run.returns_bind.2 ⟨a, t, returned, returned'⟩⟩

theorem map {step : Run α} (f : α → β) (first : Gives schemas registry step a) :
    Gives schemas registry (f <$> step) (f a) := by
  rw [map_eq_pure_bind]
  exact first.bind (pure _)

end Gives

/-- The ties reach what is registered. -/
structure Ties.ReachRegistered (schemas : Node) (registry : Registry) (ties : Ties) : Prop where
  same : ties.schemas = schemas
  component : ∀ name, schemas.value.holds name = .ok true →
    ∃ type, Gives schemas registry (ties.component name) type

variable {registry : Registry} {ties : Ties}

/-- Ties for at least one component inside another reach what is registered. -/
theorem Ties.reachRegistered_within (object : ∃ entries, schemas.value = .object entries)
    (bound : Nat) :
    (Ties.within schemas (bound + 1)).ReachRegistered schemas registry where
  same := rfl
  component := by
    intro name held
    obtain ⟨entries, object⟩ := object
    obtain ⟨node, required⟩ : ∃ node, schemas.required name = .ok node := by
      rw [object] at held
      obtain ⟨value, found⟩ := Option.isSome_iff_exists.1 (Except.ok.inj held)
      obtain ⟨node, required, -⟩ := Node.exists_required_of_find? object found
      exact ⟨node, required⟩
    by_cases known : ∃ type, registry.get? name = some type
    · obtain ⟨type, found⟩ := known
      refine ⟨type, Gives.bind (.lift required) fun s finished same => ?_⟩
      refine ⟨s, finished, same, Run.returns_register.2 (.inl ⟨?_, rfl⟩)⟩
      rw [same]
      exact Registry.enter_eq_inl_iff.2 (.inl found)
    · refine ⟨.nil, fun s finished same => ?_⟩
      exact absurd (same ▸ finished.registered name held) known

section

variable (ready : ties.ReachRegistered schemas registry)

include ready

theorem gives_reference {facts : Facts} {type : Ty} (yields : referenceOver schemas facts = some type) :
    Gives schemas registry (reference ties facts) type := by
  have unresolved : Gives schemas registry (do
      Run.report .unresolvedReference [facts.ref.plain]
      return Ty.unknown ("unresolved " ++ facts.ref.plain))
      (.unknown ("unresolved " ++ facts.ref.plain)) := .bind (.report _ _) (.pure _)
  unfold referenceOver target? at yields
  unfold reference
  rw [ready.same]
  cases named : facts.refName with
  | error fault => simp [named, bind, Except.bind] at yields
  | ok name? =>
      refine .bind (.lift rfl) ?_
      cases name? with
      | none =>
          obtain rfl : .unknown ("unresolved " ++ facts.ref.plain) = type := by
            simpa [named, bind, Except.bind, pure, Except.pure] using yields
          exact unresolved
      | some name =>
          cases held : schemas.value.holds name with
          | error fault => simp [named, held, bind, Except.bind] at yields
          | ok present =>
              refine .bind (.lift held) ?_
              cases present with
              | false =>
                  obtain rfl : .unknown ("unresolved " ++ facts.ref.plain) = type := by
                    simpa [named, held, bind, Except.bind, pure, Except.pure] using yields
                  exact unresolved
              | true =>
                  obtain ⟨nilable, atUse, rfl⟩ : ∃ nilable,
                      admitsNilAtUse schemas name = .ok nilable ∧
                        referenceType nilable name = type := by
                    simpa [named, held, bind, Except.bind, pure, Except.pure, toOption_eq_some]
                      using yields
                  obtain ⟨known, registered⟩ := ready.component name held
                  refine registered.bind (.bind (.lift atUse) ?_)
                  cases nilable <;> exact .pure _

omit ready in
theorem gives_unsupported {facts : Facts} {context : String} :
    Gives schemas registry (unsupported facts context) (anyType facts) := by
  unfold unsupported anyType
  cases facts.declaredType with
  | none => exact .pure _
  | some declared => exact .bind (.report _ _) (.pure _)

omit ready in
theorem gives_mergeSource {type : Ty} :
    Gives schemas registry (mergeSource ties type) (registry.resolve (bareMember type)) := by
  intro s finished same
  refine ⟨s, finished, same, ?_⟩
  unfold mergeSource
  refine Run.returns_bind.2 ⟨registry, s, Run.returns_registry.2 ⟨same, rfl⟩, ?_⟩
  dsimp only
  split
  · rename_i name _
    refine Run.returns_bind.2 ⟨s, s, Run.returns_get.2 ⟨rfl, rfl⟩, ?_⟩
    rw [finished.inProgress]
    exact Run.returns_pure.2 ⟨rfl, rfl⟩
  · exact Run.returns_pure.2 ⟨rfl, rfl⟩

omit ready in
theorem gives_sources {types : List Ty} :
    Gives schemas registry (types.mapM (mergeSource ties)) (sourcesOver registry types) := by
  induction types with
  | nil => exact .pure _
  | cons type rest ih =>
      rw [List.mapM_cons]
      exact gives_mergeSource.bind (ih.bind (.pure _))

omit ready in
theorem gives_combine {facts : Facts} {name : Option String} {types : List Ty} {type : Ty}
    (yields : combineOver registry facts name types = some type) :
    Gives schemas registry (combine ties facts name types) type := by
  unfold combine
  refine gives_sources.bind ?_
  unfold combineOver at yields
  cases records : mergeable (sourcesOver registry types) with
  | true =>
      rw [records, if_pos rfl] at yields
      obtain ⟨text, described, rfl⟩ := Option.map_eq_some_iff.1 yields
      unfold mergeable at records
      rw [if_pos records]
      exact .bind (.lift (toOption_eq_some.1 described)) (.pure _)
  | false =>
      rw [records, if_neg Bool.false_ne_true] at yields
      unfold mergeable at records
      rw [if_neg (by rw [records]; exact Bool.false_ne_true)]
      cases yields
      match types with
      | [only] => exact .pure _
      | [] | _ :: _ :: _ => exact .bind (.report _ _) (.pure _)

/-- The program gives each type that the schema has over the registry. -/
def Given (schemas : Node) (registry : Registry) (ties : Ties) (schema : Schema) : Prop :=
  ∀ context type, typeOver schemas registry schema context = some type →
    Gives schemas registry (translate ties schema context) type

omit ready in
theorem gives_translateMembers {context : String} {i : Nat} {members : List Schema}
    {types : List Ty} (each : ∀ member ∈ members, Given schemas registry ties member)
    (yields : (unionParts context i members).mapM (partOver schemas registry) = some types) :
    Gives schemas registry (translateMembers ties context i members) types := by
  induction members generalizing i types with
  | nil =>
      cases yields
      exact .pure _
  | cons member rest ih =>
      have parts : unionParts context i (member :: rest) =
          (member, extend context (toString i)) :: unionParts context (i + 1) rest := rfl
      rw [parts, List.mapM_cons] at yields
      obtain ⟨type, first, yields⟩ := Option.bind_eq_some_iff.1 yields
      obtain ⟨others, second, yields⟩ := Option.bind_eq_some_iff.1 yields
      cases yields
      unfold translateMembers
      exact .bind (each member List.mem_cons_self _ _ first)
        (.bind (ih (fun other inside => each other (List.mem_cons_of_mem _ inside)) second) (.pure _))

omit ready in
theorem gives_translateTyped {name : Option String} {i : Nat} {members : List Schema}
    {types : List Ty} (each : ∀ member ∈ members, Given schemas registry ties member)
    (yields : (typedParts name i members).mapM (partOver schemas registry) = some types) :
    Gives schemas registry (translateTyped ties name i members) types := by
  induction members generalizing i types with
  | nil =>
      cases yields
      exact .pure _
  | cons member rest ih =>
      have others : ∀ other ∈ rest, Given schemas registry ties other :=
        fun other inside => each other (List.mem_cons_of_mem _ inside)
      unfold translateTyped
      cases note : member.isNote with
      | true =>
          rw [typedParts, List.filter_cons_of_neg (by simp [note])] at yields
          exact ih others yields
      | false =>
          rw [typedParts, List.filter_cons_of_pos (by simp [note]), List.zipIdx_cons, List.map_cons,
            List.mapM_cons] at yields
          obtain ⟨type, first, yields⟩ := Option.bind_eq_some_iff.1 yields
          obtain ⟨more, second, yields⟩ := Option.bind_eq_some_iff.1 yields
          cases yields
          exact .bind (each member List.mem_cons_self _ _ first) (.bind (ih others second) (.pure _))

omit ready in
theorem gives_translateFields {name : Option String} {required : List Json}
    {properties : List (String × Schema)} {fields : List (Field Ty)}
    (each : ∀ property ∈ properties, Given schemas registry ties property.2)
    (yields : fieldsOver schemas registry name required properties = some fields) :
    Gives schemas registry (translateFields ties name required properties) fields := by
  induction properties generalizing fields with
  | nil =>
      rw [fieldsOver] at yields
      cases yields
      exact .pure _
  | cons property rest ih =>
      obtain ⟨property, schema⟩ := property
      rw [fieldsOver] at yields
      obtain ⟨type, first, yields⟩ := Option.bind_eq_some_iff.1 yields
      obtain ⟨text, described, yields⟩ := Option.bind_eq_some_iff.1 yields
      obtain ⟨others, second, yields⟩ := Option.bind_eq_some_iff.1 yields
      cases yields
      unfold translateFields
      refine .bind (each _ List.mem_cons_self _ _ first)
        (.bind (.lift (toOption_eq_some.1 described)) (.bind (ih ?_ second) (.pure _)))
      exact fun other inside => each other (List.mem_cons_of_mem _ inside)

omit ready in
theorem gives_record {facts : Facts} {name : Option String} {fields : List (Field Ty)} {type : Ty}
    (yields : recordWith facts name fields = some type) :
    Gives schemas registry
      (do return .record name fields (← Run.lift (strip facts.description))) type := by
  obtain ⟨text, described, rfl⟩ := Option.map_eq_some_iff.1 yields
  exact .bind (.lift (toOption_eq_some.1 described)) (.pure _)

/-- The program gives each type that a schema has over the registry. -/
theorem gives_translate (schema : Schema) : Given schemas registry ties schema := by
  induction schema using Schema.induction with
  | step schema inItems inProperties inAdditional inMembers =>
      intro context type yields
      rw [typeOver_eq] at yields
      obtain ⟨inner, bare, rfl⟩ := Option.map_eq_some_iff.1 yields
      clear yields
      obtain ⟨facts, items, properties, additional, members⟩ := schema
      have scalarCase : (scalar facts).toOption = some inner →
          Gives schemas registry (Run.lift (scalar facts)) inner :=
        fun typed => .lift (toOption_eq_some.1 typed)
      unfold bareOver at bare
      unfold translate
      simp only [Schema.facts, Schema.items, Schema.properties, Schema.additional,
        Schema.members] at bare inItems inProperties inAdditional inMembers
      cases kind : facts.kind with
      | reference =>
          rw [kind] at bare
          exact .bind (gives_reference ready bare) (.pure _)
      | array =>
          rw [kind] at bare
          cases items with
          | none =>
              cases bare
              exact .bind (.pure _) (.pure _)
          | some item =>
              obtain ⟨element, inside, rfl⟩ := Option.map_eq_some_iff.1 bare
              exact .bind (.map _ (inItems item rfl _ _ inside)) (.pure _)
      | object =>
          rw [kind] at bare
          cases plain : properties.isEmpty with
          | true =>
              simp only [plain, if_true] at bare ⊢
              cases additional with
              | none =>
                  cases bare
                  exact .bind (.pure _) (.pure _)
              | some value =>
                  obtain ⟨element, inside, rfl⟩ := Option.map_eq_some_iff.1 bare
                  exact .bind (.map _ (inAdditional value rfl _ _ inside)) (.pure _)
          | false =>
              simp only [plain, Bool.false_eq_true, if_false] at bare ⊢
              cases placed : context == "" with
              | true =>
                  rw [placed, if_pos rfl] at bare
                  obtain ⟨fields, inside, described⟩ := Option.bind_eq_some_iff.1 bare
                  rw [if_pos rfl]
                  exact .bind (.bind (gives_translateFields inProperties inside)
                    (gives_record described)) (.pure _)
              | false =>
                  -- a record in a context is hoisted, so it has no type over the registry
                  rw [placed] at bare
                  cases bare
      | union =>
          rw [kind] at bare
          obtain ⟨types, inside, rfl⟩ := Option.map_eq_some_iff.1 bare
          exact .bind (.map _ (gives_translateMembers inMembers inside)) (.pure _)
      | allOf =>
          rw [kind] at bare
          obtain ⟨types, inside, merged⟩ := Option.bind_eq_some_iff.1 bare
          exact .bind (.bind (gives_translateTyped inMembers inside) (gives_combine merged)) (.pure _)
      | any =>
          rw [kind] at bare
          cases bare
          exact .bind gives_unsupported (.pure _)
      | _ =>
          rw [kind] at bare
          exact .bind (scalarCase bare) (.pure _)

theorem gives_numbered {name : String} {parts : List (Schema × Nat)} {types : List Ty}
    (yields : (parts.map fun part => (part.1, name ++ toString part.2)).mapM
      (partOver schemas registry) = some types) :
    Gives schemas registry
      (parts.mapM fun part => translate ties part.1 (name ++ toString part.2)) types := by
  induction parts generalizing types with
  | nil =>
      cases yields
      exact .pure _
  | cons part rest ih =>
      rw [List.map_cons, List.mapM_cons] at yields
      obtain ⟨type, first, yields⟩ := Option.bind_eq_some_iff.1 yields
      obtain ⟨others, second, yields⟩ := Option.bind_eq_some_iff.1 yields
      cases yields
      rw [List.mapM_cons]
      exact .bind (gives_translate ready _ _ _ first) (.bind (ih second) (.pure _))

/-- The program gives the type that a component has over the registry. -/
theorem gives_buildNamed {name : String} {schema : Schema} {type : Ty}
    (yields : namedOver schemas registry name schema = some type) :
    Gives schemas registry (buildNamed ties name schema) type := by
  have each : ∀ schema, Given schemas registry ties schema := gives_translate ready
  unfold namedOver at yields
  unfold buildNamed
  cases kind : schema.facts.kind with
  | object =>
      rw [kind] at yields
      rw [Schema.kind, kind]
      cases plain : schema.properties.isEmpty with
      | true =>
          simp only [plain, if_true] at yields ⊢
          exact each _ _ _ yields
      | false =>
          simp only [plain, Bool.false_eq_true, if_false] at yields ⊢
          obtain ⟨fields, inside, described⟩ := Option.bind_eq_some_iff.1 yields
          exact .bind (gives_translateFields (fun property _ => each property.2) inside)
            (gives_record described)
  | allOf =>
      rw [kind] at yields
      rw [Schema.kind, kind]
      obtain ⟨types, inside, merged⟩ := Option.bind_eq_some_iff.1 yields
      exact .bind (gives_translateTyped (fun member _ => each member) inside) (gives_combine merged)
  | union =>
      rw [kind] at yields
      rw [Schema.kind, kind]
      obtain ⟨types, inside, rfl⟩ := Option.map_eq_some_iff.1 yields
      refine .bind (gives_numbered ready inside) ?_
      unfold namedUnion
      dsimp only
      split <;> exact .pure _
  | _ =>
      rw [kind] at yields
      rw [Schema.kind, kind]
      exact each _ _ _ yields

end

/-- Building a component anew gives the type that it has over the registry. -/
theorem gives_rebuild (object : ∃ entries, schemas.value = .object entries) {bound : Nat}
    {name : String} {schema : Schema} {type : Ty}
    (parsed : componentSchema schemas name = .ok schema)
    (yields : namedOver schemas registry name schema = some type) :
    Gives schemas registry ((Ties.within schemas (bound + 2)).rebuild name) type := by
  obtain ⟨node, required, parsed⟩ := except_bind_eq_ok.1 parsed
  exact .bind (.lift required)
    (.bind (.lift parsed) (gives_buildNamed (Ties.reachRegistered_within object bound) yields))

end TypedContract.Translation
