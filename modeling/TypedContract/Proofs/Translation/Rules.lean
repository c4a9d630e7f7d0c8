/-
# TypedContract.Proofs.Translation.Rules -- what the parts of a translation pass on

Some properties of a step are passed on when steps are put together: that it comes back,
that it does not tell two sessions apart.  `Rules` lists what such a property has to
satisfy, one rule for each way in which a translation is put together, and none for a
kind of schema.  What satisfies the rules holds of the translation of every schema whose
facts can be read (`Rules.translate`) and of building every component
(`Rules.buildNamed`), by the recursion of the program.

A property speaks of a family of steps, one for each index: the program ties its knot
once for each bound, and a property may compare the steps of different bounds.
-/
import TypedContract.Proofs.Registry.Entries
import TypedContract.Proofs.Translation.Derivation

namespace TypedContract

set_option autoImplicit false

namespace Schema

/-- Whatever a translation reads from the facts of a schema can be read. -/
structure Facts.Read (readable : (α : Type) → Except Fault α → Prop) (facts : Facts) :
    Prop where
  scalar : readable _ (Translation.scalar facts)
  refName : readable _ facts.refName
  description : readable _ (strip facts.description)
  fieldText : readable _ (describe facts)

/-- The facts of the schema and of the schemas in it can be read. -/
inductive Read (readable : (α : Type) → Except Fault α → Prop) : Schema → Prop where
  | mk {schema : Schema} (facts : schema.facts.Read readable)
      (items : ∀ item, schema.items = some item → Read readable item)
      (properties : ∀ property ∈ schema.properties, Read readable property.2)
      (additional : ∀ value, schema.additional = some value → Read readable value)
      (members : ∀ member ∈ schema.members, Read readable member) : Read readable schema

end Schema

namespace Translation

open Schema

/-! ## When the steps between components return -/

section

variable {s t : Session} {type : Ty}

/-- An inline record keeps the name it was hoisted under, or is hoisted now. -/
theorem returns_hoist {place : Option Place} {context : String} {record : String → Run Ty} :
    Run.Returns (hoist place context record) s type t ↔
      (isHoisted s context place = true ∧ .reference context = type ∧ s = t) ∨
      (isHoisted s context place = false ∧ ∃ name built u,
        s.registry.uniqueName context = name ∧ .reference name = type ∧
        Run.Returns (record name) (Run.begun (hoisting s name place) name) built u ∧
        Run.finished u name built = t) := by
  have entered : s.registry.enter (s.registry.uniqueName context) =
      .inr (s.registry.start (s.registry.uniqueName context)) :=
    Registry.enter_eq_inr_iff.2 ⟨Registry.uniqueName_spec.1, rfl⟩
  unfold hoist
  simp only [Run.returns_bind, Run.returns_get, and_assoc, exists_and_left, exists_eq_left']
  cases isHoisted s context place with
  | true => simp
  | false =>
      simp [Run.returns_register, entered]
      exact and_comm

/-- A merge takes the type as it is: it leads to no component that is to be built anew. -/
def Stays (schemas : Node) (s : Session) (type : Ty) : Prop :=
  ∀ name, type = .reference name → s.registry.inProgress name = true →
    ∃ held, schemas.value.holds name = .ok held ∧
      (held = false ∨ s.rebuilding.contains name = true)

/-- A member contributes what it leads to, or a component in progress built anew. -/
theorem returns_mergeSource {ties : Ties} {source : Ty} :
    Run.Returns (mergeSource ties type) s source t ↔
      (Stays ties.schemas s (s.registry.resolve (bareMember type)) ∧
        s.registry.resolve (bareMember type) = source ∧ s = t) ∨
      ∃ name u, s.registry.resolve (bareMember type) = .reference name ∧
        Rebuilds ties.schemas s name ∧
        Run.Returns (ties.rebuild name) { s with rebuilding := name :: s.rebuilding } source u ∧
        { u with rebuilding := u.rebuilding.filter (· != name) } = t := by
  unfold mergeSource
  simp only [Run.returns_bind, Run.returns_registry, and_assoc, exists_and_left, exists_eq_left']
  cases s.registry.resolve (bareMember type) with
  | reference name =>
      simp only [Run.returns_bind, Run.returns_get, and_assoc, exists_and_left, exists_eq_left']
      cases progress : s.registry.inProgress name with
      | false => simp [Stays, Rebuilds, progress]
      | true =>
          cases holds : ties.schemas.value.holds name with
          | error fault => simp [Stays, Rebuilds, progress, holds]
          | ok held =>
              by_cases among : name ∈ s.rebuilding
              · cases held <;> simp [Stays, Rebuilds, progress, holds, among, and_comm]
              · cases held with
                | false => simp [Stays, Rebuilds, progress, holds, and_comm]
                | true => simp [Stays, Rebuilds, progress, holds, among]
  | _ => simp [Stays]

end

/-! ## The rules -/

/-- What a property of steps has to satisfy to hold of translations: some results can be
read, and the property is passed on by each way of putting steps together. -/
structure Rules {ι : Type} (schemas : Node) (ties : ι → Ties)
    (readable : (α : Type) → Except Fault α → Prop)
    (keeps : (α : Type) → (ι → Run α) → Prop) : Prop where
  same : ∀ i, (ties i).schemas = schemas
  holds : ∀ name, readable _ (schemas.value.holds name)
  atUse : ∀ name, schemas.value.holds name = .ok true →
    readable _ (admitsNilAtUse schemas name)
  pure : ∀ {α : Type} (a : α), keeps α fun _ => Pure.pure a
  bind : ∀ {α β : Type} {step : ι → Run α} {next : α → ι → Run β}, keeps α step →
    (∀ a, keeps β (next a)) → keeps β fun i => step i >>= fun a => next a i
  /-- What follows on a result that is read may rely on what was read. -/
  read : ∀ {α β : Type} {result : Except Fault α} {next : α → ι → Run β}, readable α result →
    (∀ a, result = .ok a → keeps β (next a)) →
      keeps β fun i => Run.lift result >>= fun a => next a i
  report : ∀ {code : Diagnostic.Code} {args : List String}, code ≠ .danglingReference →
    keeps Unit fun _ => Run.report code args
  component : ∀ {name : String}, schemas.value.holds name = .ok true →
    keeps Ty fun i => (ties i).component name
  hoist : ∀ {place : Option Place} {context : String} {record : String → ι → Run Ty},
    (∀ name, keeps Ty (record name)) →
      keeps Ty fun i => Translation.hoist place context fun name => record name i
  mergeSource : ∀ {type : Ty}, keeps Ty fun i => Translation.mergeSource (ties i) type

namespace Rules

variable {ι : Type} {schemas : Node} {ties : ι → Ties}
  {readable : (α : Type) → Except Fault α → Prop} {keeps : (α : Type) → (ι → Run α) → Prop}
  (rules : Rules schemas ties readable keeps)

include rules

/-! ## Steps -/

theorem lift {α : Type} {result : Except Fault α} (read : readable α result) :
    keeps α fun _ => Run.lift result := by
  simpa using rules.read read fun a _ => rules.pure a

theorem map {α β : Type} {step : ι → Run α} {f : α → β} (first : keeps α step) :
    keeps β fun i => f <$> step i := by
  simpa only [map_eq_pure_bind] using rules.bind first fun a => rules.pure (f a)

theorem mapM {α β : Type} {step : α → ι → Run β} {xs : List α}
    (each : ∀ x ∈ xs, keeps β (step x)) : keeps (List β) fun i => xs.mapM fun x => step x i := by
  induction xs with
  | nil => exact rules.pure []
  | cons x xs ih =>
      simp only [List.mapM_cons]
      have others := ih fun other among => each other (List.mem_cons_of_mem _ among)
      exact rules.bind (each x List.mem_cons_self) fun y =>
        rules.bind others fun ys => rules.pure (y :: ys)

/-! ## Leaves and merges -/

theorem reference {facts : Facts} (read : facts.Read readable) :
    keeps Ty fun i => Translation.reference (ties i) facts := by
  have unresolved : keeps Ty fun _ => do
      Run.report .unresolvedReference [facts.ref.plain]
      return .unknown ("unresolved " ++ facts.ref.plain) :=
    rules.bind (rules.report (by decide)) fun _ => rules.pure _
  unfold Translation.reference
  simp only [rules.same]
  refine rules.read read.refName fun name? _ => ?_
  cases name? with
  | none => exact unresolved
  | some name =>
      refine rules.read (rules.holds name) fun held holds => ?_
      cases held with
      | false => exact unresolved
      | true =>
          refine rules.bind (rules.component holds) fun _ => ?_
          refine rules.read (rules.atUse name holds) fun nilable _ => ?_
          cases nilable <;> exact rules.pure _

theorem unsupported {facts : Facts} {context : String} :
    keeps Ty fun _ => Translation.unsupported facts context := by
  unfold Translation.unsupported
  cases facts.declaredType with
  | none => exact rules.pure _
  | some declared => exact rules.bind (rules.report (by decide)) fun _ => rules.pure _

theorem record {facts : Facts} (read : facts.Read readable) {name : Option String}
    {fields : ι → Run (List (Field Ty))} (inside : keeps _ fields) :
    keeps Ty fun i => do
      let fields ← fields i
      return .record name fields (← Run.lift (strip facts.description)) :=
  rules.bind inside fun _ => rules.read read.description fun _ _ => rules.pure _

theorem combine {facts : Facts} (read : facts.Read readable) {name : Option String}
    {translated : List Ty} :
    keeps Ty fun i => Translation.combine (ties i) facts name translated := by
  unfold Translation.combine
  refine rules.bind (rules.mapM fun type _ => rules.mergeSource) fun resolved => ?_
  split
  · exact rules.read read.description fun _ _ => rules.pure _
  · split
    · exact rules.pure _
    · exact rules.bind (rules.report (by decide)) fun _ => rules.pure _

/-! ## Schemas -/

section

variable {members : List Schema}
  (each : ∀ member ∈ members, ∀ context,
    keeps Ty fun i => Translation.translate (ties i) member context)

include each

theorem translateMembers {context : String} {n : Nat} :
    keeps _ fun i => Translation.translateMembers (ties i) context n members := by
  induction members generalizing n with
  | nil => exact rules.pure _
  | cons member rest ih =>
      simp only [Translation.translateMembers]
      refine rules.bind (each member List.mem_cons_self _) fun type => ?_
      exact rules.bind (ih fun other among => each other (List.mem_cons_of_mem _ among))
        fun types => rules.pure _

theorem translateTyped {name : Option String} {n : Nat} :
    keeps _ fun i => Translation.translateTyped (ties i) name n members := by
  induction members generalizing n with
  | nil => exact rules.pure _
  | cons member rest ih =>
      have others : ∀ {n : Nat}, keeps _ fun i => Translation.translateTyped (ties i) name n rest :=
        ih fun other among => each other (List.mem_cons_of_mem _ among)
      simp only [Translation.translateTyped]
      split
      · exact others
      · refine rules.bind (each member List.mem_cons_self _) fun type => ?_
        exact rules.bind others fun types => rules.pure _

end

theorem translateFields {name : Option String} {required : List Json}
    {properties : List (String × Schema)}
    (read : ∀ property ∈ properties, property.2.Read readable)
    (each : ∀ property ∈ properties, ∀ context,
      keeps Ty fun i => Translation.translate (ties i) property.2 context) :
    keeps _ fun i => Translation.translateFields (ties i) name required properties := by
  induction properties with
  | nil => exact rules.pure _
  | cons property rest ih =>
      obtain ⟨property, schema⟩ := property
      have text : schema.facts.Read readable := by
        cases read _ List.mem_cons_self with
        | mk facts => exact facts
      have others := ih (fun other among => read other (List.mem_cons_of_mem _ among))
        fun other among => each other (List.mem_cons_of_mem _ among)
      simp only [Translation.translateFields]
      refine rules.bind (each _ List.mem_cons_self _) fun type => ?_
      refine rules.read text.fieldText fun description _ => ?_
      exact rules.bind others fun fields => rules.pure _

/-- What satisfies the rules holds of the translation of each schema that can be read. -/
theorem translate {schema : Schema} (read : schema.Read readable) : ∀ context,
    keeps Ty fun i => Translation.translate (ties i) schema context := by
  induction read with
  | @mk schema facts items properties additional members inItems inProperties inAdditional
      inMembers =>
      intro context
      obtain ⟨own, item?, entries, value?, parts⟩ := schema
      have nilable : ∀ {step : ι → Run Ty}, keeps Ty step →
          keeps Ty fun i => do return withNil own.nullable (← step i) :=
        fun inside => rules.bind inside fun type => rules.pure _
      unfold Translation.translate
      cases own.kind with
      | reference => exact nilable (rules.reference facts)
      | array =>
          cases item? with
          | none => exact nilable (rules.pure _)
          | some item => exact nilable (rules.map (inItems item rfl _))
      | object =>
          cases entries with
          | nil =>
              cases value? with
              | none => exact nilable (rules.pure _)
              | some value => exact nilable (rules.map (inAdditional value rfl _))
          | cons property rest =>
              have record : ∀ name, keeps Ty fun i => do
                  let fields ← Translation.translateFields (ties i) name own.required
                    (property :: rest)
                  return .record name fields (← Run.lift (strip own.description)) :=
                fun name => rules.record facts (rules.translateFields properties inProperties)
              by_cases empty : context = ""
              · subst empty
                exact nilable (record none)
              · simp only [List.isEmpty_cons, Bool.false_eq_true, if_false, beq_iff_eq, if_neg empty]
                exact nilable (rules.hoist fun name => record (some name))
      | union => exact nilable (rules.map (rules.translateMembers inMembers))
      | allOf =>
          refine nilable (rules.bind (rules.translateTyped inMembers) fun types => ?_)
          exact rules.combine facts
      | any => exact nilable rules.unsupported
      | _ => exact nilable (rules.lift facts.scalar)

/-- It also holds of building each component that can be read. -/
theorem buildNamed {schema : Schema} (read : schema.Read readable) {name : String} :
    keeps Ty fun i => Translation.buildNamed (ties i) name schema := by
  have whole := rules.translate read
  cases read with
  | mk facts items properties additional members =>
      unfold Translation.buildNamed
      cases schema.kind with
      | object =>
          dsimp only
          split
          · exact whole name
          · refine rules.record facts (rules.translateFields properties ?_)
            exact fun property among => rules.translate (properties property among)
      | allOf =>
          refine rules.bind (rules.translateTyped ?_) fun types => rules.combine facts
          exact fun member among => rules.translate (members member among)
      | union =>
          refine rules.bind (rules.mapM ?_) fun types => ?_
          · rintro ⟨member, n⟩ among
            exact rules.translate (members member (List.fst_mem_of_mem_zipIdx among)) _
          · dsimp only
            split <;> exact rules.pure _
      | _ => exact whole name

end Rules

end Translation

end TypedContract
