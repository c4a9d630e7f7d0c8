/-
# TypedContract.Proofs.Translation.Following -- translations of an enriched contract

The translation of a schema over an enriched contract follows its translation over the
contract before: the two take the same way and their types differ in descriptions only.
Inline schemas are the same in both contracts, component schemas are reworded, and the
ties of the program reach reworded components through ties that follow
(`Ties.tracks_within`).  There is one lemma for each part of a translation, in the order
of the program.
-/
import TypedContract.Proofs.Following
import TypedContract.Proofs.Schema.Reworded
import TypedContract.Proofs.Schema.Typed
import TypedContract.Proofs.Translation.Over
import TypedContract.Proofs.Translation.Rules

namespace TypedContract

set_option autoImplicit false

open Contract (Part)

namespace Schema

variable {facts facts' : Facts}

/-! ## Texts of descriptions -/

theorem exists_strip_reworded {text text' : Json} (reworded : text.Reworded text') {stripped : String}
    (found : strip text = .ok stripped) : ∃ stripped', strip text' = .ok stripped' := by
  obtain ⟨words, isText, -⟩ := except_bind_eq_ok.1 found
  obtain ⟨words', isText'⟩ := reworded.exists_text isText
  exact ⟨_, except_bind_eq_ok.2 ⟨words', isText', rfl⟩⟩

theorem listable_of_describe {text : String} (found : describe facts = .ok text) :
    Listable facts.enum := by
  have of_rest {description : String} (rest : describeValues facts description = .ok text) :
      Listable facts.enum := by
    obtain ⟨values?, listed, rest⟩ := except_bind_eq_ok.1 rest
    refine ⟨values?, listed, ?_⟩
    rintro values rfl
    obtain ⟨texts, worded, -⟩ := except_bind_eq_ok.1 rest
    exact ⟨texts, worded⟩
  unfold describe at found
  split at found
  · obtain ⟨own, -, rest⟩ := except_bind_eq_ok.1 found
    exact of_rest rest
  · exact of_rest found

theorem exists_describe_reworded (reworded : facts.Reworded facts') {text : String}
    (found : describe facts = .ok text) : ∃ text', describe facts' = .ok text' := by
  rcases reworded.description with same | ⟨words, isText⟩
  · refine ⟨text, ?_⟩
    rw [reworded.same, same]
    exact found
  · have enum : facts'.enum = facts.enum := by rw [reworded.same]
    have listable : Listable facts'.enum := enum ▸ listable_of_describe found
    exact exists_describe listable ⟨_, by rw [isText]; rfl⟩

end Schema

namespace Translation

open Schema

variable {offer : Offer} {contract : Json} {ties ties' : Ties} {facts facts' : Facts}
  {schemas schemas' : Node}

/-! ## Ties -/

/-- The component schemas are counterparts, and components are registered and built anew
with reworded types. -/
structure Ties.Tracks (offer : Offer) (contract : Json) (ties ties' : Ties) : Prop where
  schemas : Node.Counterpart offer contract .schemas ties.schemas ties'.schemas
  component : ∀ name, Run.Follows Ty.Reworded (ties.component name) (ties'.component name)
  rebuild : ∀ name, Run.Follows Ty.Reworded (ties.rebuild name) (ties'.rebuild name)

theorem admitsNilAtUse_enriched (legible : offer.Legible)
    (counterpart : Node.Counterpart offer contract .schemas schemas schemas') {name : String}
    {nilable : Bool} (found : admitsNilAtUse schemas name = .ok nilable) :
    admitsNilAtUse schemas' name = .ok nilable := by
  unfold admitsNilAtUse at found ⊢
  obtain ⟨node, held, rest⟩ := except_bind_eq_ok.1 found
  obtain ⟨schema, parsed, answer⟩ := except_bind_eq_ok.1 rest
  obtain ⟨node', held', own⟩ := (counterpart.required rfl).exists_right held
  obtain ⟨schema', parsed', reworded⟩ := exists_parse_enriched own legible parsed
  refine except_bind_eq_ok.2 ⟨node', held', except_bind_eq_ok.2 ⟨schema', parsed', ?_⟩⟩
  have kind : schema'.kind = schema.kind := reworded.facts.kind
  rw [reworded.facts.nullable, kind, reworded.isEmpty_properties]
  exact answer

/-! ## Leaves -/

section

variable (legible : offer.Legible) (follows : ties.Tracks offer contract ties')
  (reworded : facts.Reworded facts')

include legible follows reworded

theorem follows_reference :
    Run.Follows Ty.Reworded (reference ties facts) (reference ties' facts') := by
  have ref : facts'.ref = facts.ref := by rw [reworded.same]
  have unresolved : Run.Follows Ty.Reworded (do
      Run.report .unresolvedReference [facts.ref.plain]
      return .unknown ("unresolved " ++ facts.ref.plain) : Run Ty) (do
      Run.report .unresolvedReference [facts.ref.plain]
      return .unknown ("unresolved " ++ facts.ref.plain)) :=
    .bind .report fun _ _ _ => .pure rfl
  have named : facts'.refName = facts.refName := by rw [reworded.same]; rfl
  unfold reference
  rw [ref]
  refine .read named fun name? _ => ?_
  cases name? with
  | none => exact unresolved
  | some name =>
      refine .read (follows.schemas.holds rfl) fun held _ => ?_
      cases held with
      | false => exact unresolved
      | true =>
          refine .bind (follows.component name) fun _ _ _ => ?_
          have same : Run.Follows Eq (Run.lift (admitsNilAtUse ties.schemas name))
              (Run.lift (admitsNilAtUse ties'.schemas name)) :=
            .lift fun nilable found =>
              ⟨nilable, admitsNilAtUse_enriched legible follows.schemas found, rfl⟩
          refine .bind same fun nilable _ same => ?_
          subst same
          cases nilable <;> exact .pure rfl

end

theorem follows_unsupported (reworded : facts.Reworded facts') (context : String) :
    Run.Follows Ty.Reworded (unsupported facts context) (unsupported facts' context) := by
  have declared : facts'.declaredType = facts.declaredType := by rw [reworded.same]
  unfold unsupported
  rw [declared]
  cases facts.declaredType with
  | none => exact .pure rfl
  | some declared => exact .bind .report fun _ _ _ => .pure rfl

theorem scalar_reworded (reworded : facts.Reworded facts') : scalar facts' = scalar facts := by
  rw [reworded.same]
  rfl

/-! ## Hoisting and merging -/

theorem follows_hoist {place : Option Place} {context : String} {record record' : String → Run Ty}
    (each : ∀ name, Run.Follows Ty.Reworded (record name) (record' name)) :
    Run.Follows Ty.Reworded (hoist place context record) (hoist place context record') := by
  refine .bind .get fun s s' reworded => ?_
  have hoisted : isHoisted s' context place = isHoisted s context place := by
    unfold isHoisted
    rw [reworded.hoisted, reworded.registry.contains]
  rw [hoisted]
  split
  · exact .pure rfl
  · rw [reworded.registry.uniqueName]
    refine .bind (.modify fun t t' own => ⟨own.registry, ?_, own.rebuilding⟩) fun _ _ _ => ?_
    · rw [own.hoisted]
    · exact .bind (.register (each _)) fun _ _ _ => .pure rfl

/-- A type that leads to a component in progress leads to it under any descriptions. -/
theorem follows_mergeSource (follows : ties.Tracks offer contract ties') {type type' : Ty}
    (same : type.Reworded type') :
    Run.Follows Ty.Reworded (mergeSource ties type) (mergeSource ties' type') := by
  refine .bind .registry fun registry registry' reworded => ?_
  have bare : (bareMember type).Reworded (bareMember type') := by
    unfold Ty.Reworded
    rw [undescribed_bareMember, same, undescribed_bareMember]
  have resolved := reworded.resolve bare
  generalize registry.resolve (bareMember type) = source,
    registry'.resolve (bareMember type') = source' at resolved
  have taken : Run.Follows Ty.Reworded (pure source) (pure source') := .pure resolved
  -- what becomes a reference without descriptions was that reference with them
  have referred (name : String) : source' = .reference name ↔ source = .reference name := by
    rw [← Ty.undescribed_eq_reference, resolved, Ty.undescribed_eq_reference]
  cases source with
  | reference name =>
      obtain rfl : source' = .reference name := (referred name).2 rfl
      refine .bind .get fun s s' reworded => ?_
      rw [reworded.registry.inProgress, reworded.rebuilding]
      split
      · exact taken
      · refine .read (follows.schemas.holds rfl) fun held _ => ?_
        split
        · exact taken
        · refine .bind (.modify fun t t' own => ⟨own.registry, own.hoisted, ?_⟩) fun _ _ _ => ?_
          · rw [own.rebuilding]
          · exact .afterwards (follows.rebuild name) fun t t' _ own =>
              ⟨own.registry, own.hoisted, by rw [own.rebuilding]⟩
  | _ =>
      cases source' with
      | reference name => cases (referred name).1 rfl
      | _ => exact taken

theorem follows_combine (follows : ties.Tracks offer contract ties')
    (reworded : facts.Reworded facts') {name : Option String} {types types' : List Ty}
    (same : List.Forall₂ Ty.Reworded types types') :
    Run.Follows Ty.Reworded (combine ties facts name types) (combine ties' facts' name types') := by
  unfold combine
  refine .bind (.mapM same fun _ _ own => follows_mergeSource follows own)
    fun resolved resolved' own => ?_
  have maps : resolved'.map Ty.undescribed = resolved.map Ty.undescribed := map_eq_of_forall₂ own
  have records : (!resolved'.isEmpty && resolved'.all Ty.isRecord) =
      (!resolved.isEmpty && resolved.all Ty.isRecord) := by
    -- whether the members merge can be told without their descriptions
    have answer (types : List Ty) : (!types.isEmpty && types.all Ty.isRecord) =
        (!(types.map Ty.undescribed).isEmpty && (types.map Ty.undescribed).all Ty.isRecord) := by
      rw [List.isEmpty_map, List.all_map]
      refine congrArg _ (congrArg types.all (funext fun type => ?_))
      rw [Function.comp_apply, Ty.isRecord_undescribed]
    rw [answer, maps, ← answer]
  rw [records]
  split
  · refine .bind (.found fun _ => exists_strip_reworded reworded.description)
      fun text text' _ => .pure ?_
    unfold Ty.Reworded
    rw [Ty.undescribed_record, Ty.undescribed_record, map_mergeFields, map_mergeFields, maps]
  · cases same with
    | nil => exact .bind .report fun _ _ _ => .pure rfl
    | cons head tail =>
        cases tail with
        | nil =>
            refine .pure ?_
            unfold Ty.Reworded at head ⊢
            rw [Ty.undescribed_union, Ty.undescribed_union, List.map_singleton, head]
            rfl
        | cons next rest => exact .bind .report fun _ _ _ => .pure rfl

/-! ## Schemas -/

section

variable {members : List Schema}
  (each : ∀ member ∈ members, ∀ context,
    Run.Follows Ty.Reworded (translate ties member context) (translate ties' member context))

include each

theorem follows_translateMembers {context : String} {n : Nat} :
    Run.Follows (List.Forall₂ Ty.Reworded) (translateMembers ties context n members)
      (translateMembers ties' context n members) := by
  induction members generalizing n with
  | nil => exact .pure .nil
  | cons member rest ih =>
      obtain ⟨first, others⟩ := List.forall_mem_cons.1 each
      unfold translateMembers
      exact .bind (first _) fun _ _ own => .bind (ih others) fun _ _ more => .pure (.cons own more)

theorem follows_translateTyped {name : Option String} {n : Nat} :
    Run.Follows (List.Forall₂ Ty.Reworded) (translateTyped ties name n members)
      (translateTyped ties' name n members) := by
  induction members generalizing n with
  | nil => exact .pure .nil
  | cons member rest ih =>
      obtain ⟨first, others⟩ := List.forall_mem_cons.1 each
      unfold translateTyped
      split
      · exact ih others
      · exact .bind (first _) fun _ _ own => .bind (ih others) fun _ _ more => .pure (.cons own more)

end

/-- The fields differ in descriptions only. -/
def FieldsReworded (fields fields' : List (Field Ty)) : Prop :=
  fields'.map Ty.undescribedField = fields.map Ty.undescribedField

theorem follows_translateFields {name : Option String} {required : List Json}
    {properties properties' : List (String × Schema)}
    (related : List.Forall₂ (fun property property' => property'.1 = property.1 ∧
      property.2.Restated property'.2) properties properties')
    (each : ∀ property ∈ properties, ∀ schema', property.2.Reworded schema' → ∀ context,
      Run.Follows Ty.Reworded (translate ties property.2 context) (translate ties' schema' context)) :
    Run.Follows FieldsReworded (translateFields ties name required properties)
      (translateFields ties' name required properties') := by
  induction related with
  | nil => exact .pure rfl
  | @cons property property' rest rest' head tail ih =>
      obtain ⟨first, others⟩ := List.forall_mem_cons.1 each
      obtain ⟨key, schema⟩ := property
      obtain ⟨key', schema'⟩ := property'
      obtain ⟨rfl, restated⟩ := head
      have facts := restated.facts
      unfold translateFields
      refine .bind (first schema' restated.reworded _) fun type type' same => ?_
      refine .bind (.found fun _ => exists_describe_reworded facts) fun text text' _ => ?_
      refine .bind (ih others) fun fields fields' more => .pure ?_
      unfold FieldsReworded at more ⊢
      rw [List.map_cons, List.map_cons, more]
      refine congrArg (· :: _) ?_
      have default : schema'.facts.default = schema.facts.default := by rw [facts.same]
      have readOnly : schema'.facts.readOnly = schema.facts.readOnly := by rw [facts.same]
      unfold Ty.Reworded at same
      simp only [Ty.undescribedField, same, default, readOnly]

theorem follows_record (reworded : facts.Reworded facts') {name : Option String}
    {fields fields' : Run (List (Field Ty))} (inside : Run.Follows FieldsReworded fields fields') :
    Run.Follows Ty.Reworded (do
      let fields ← fields
      return .record name fields (← Run.lift (strip facts.description)) : Run Ty) (do
      let fields ← fields'
      return .record name fields (← Run.lift (strip facts'.description))) := by
  refine .bind inside fun fields fields' same => ?_
  refine .bind (.found fun _ => exists_strip_reworded reworded.description) fun _ _ _ => .pure ?_
  unfold Ty.Reworded
  rw [Ty.undescribed_record, Ty.undescribed_record, same]

section

variable (legible : offer.Legible) (follows : ties.Tracks offer contract ties')

include legible follows

/-- Reworded schemas have reworded types: what is said about the schema is passed on to
the properties, everything else in them is the same. -/
theorem follows_translate {schema schema' : Schema} (reworded : schema.Reworded schema')
    (context : String) :
    Run.Follows Ty.Reworded (translate ties schema context) (translate ties' schema' context) := by
  induction schema using Schema.induction generalizing schema' context with
  | step schema inItems inProperties inAdditional inMembers =>
      obtain ⟨facts, items, properties, additional, members⟩ := schema
      obtain ⟨facts', items', properties', additional', members'⟩ := schema'
      obtain ⟨own, sameItems, related, sameAdditional, sameMembers⟩ := reworded
      obtain rfl : items = items' := sameItems.symm
      obtain rfl : additional = additional' := sameAdditional.symm
      obtain rfl : members = members' := sameMembers.symm
      dsimp only [Schema.facts, Schema.items, Schema.properties, Schema.additional,
        Schema.members] at own related inItems inProperties inAdditional inMembers
      -- the nil is added at the end, and rewording does not change whether it is
      have nilable {step step' : Run Ty} (inside : Run.Follows Ty.Reworded step step') :
          Run.Follows Ty.Reworded (do return withNil facts.nullable (← step))
            (do return withNil facts'.nullable (← step')) := by
        refine .bind inside fun type type' same => .pure ?_
        unfold Ty.Reworded
        rw [undescribed_withNil, undescribed_withNil, own.nullable, same]
      have each : ∀ member ∈ members, ∀ context,
          Run.Follows Ty.Reworded (translate ties member context) (translate ties' member context) :=
        fun member among context => inMembers member among (Reworded.refl member) context
      unfold translate
      rw [own.kind]
      cases facts.kind with
      | reference => exact nilable (follows_reference legible follows own)
      | array =>
          cases items with
          | none => exact nilable (.pure rfl)
          | some item =>
              exact nilable (.map (inItems item rfl (Reworded.refl item) _)
                fun _ _ same => congrArg Ty.array same)
      | object =>
          have empty : properties'.isEmpty = properties.isEmpty := by
            cases related <;> rfl
          have required : facts'.required = facts.required := by rw [own.same]
          have fields (name : Option String) : Run.Follows FieldsReworded
              (translateFields ties name facts.required properties)
              (translateFields ties' name facts.required properties') :=
            follows_translateFields related fun property among schema' restated context =>
              inProperties property among restated context
          dsimp only
          rw [empty, required, own.place]
          split
          · cases additional with
            | none => exact nilable (.pure rfl)
            | some value =>
                exact nilable (.map (inAdditional value rfl (Reworded.refl value) _)
                  fun _ _ same => congrArg Ty.map same)
          · split
            · exact nilable (follows_record own (fields none))
            · exact nilable (follows_hoist fun name => follows_record own (fields (some name)))
      | union =>
          refine nilable (.map (follows_translateMembers each) fun types types' same => ?_)
          unfold Ty.Reworded
          rw [Ty.undescribed_union, Ty.undescribed_union, map_eq_of_forall₂ same]
      | allOf =>
          exact nilable (.bind (follows_translateTyped each)
            fun _ _ same => follows_combine follows own same)
      | any => exact nilable (follows_unsupported own context)
      | _ => exact nilable (.lift fun type found => ⟨type, (scalar_reworded own).trans found, rfl⟩)

theorem follows_buildNamed {schema schema' : Schema} (reworded : schema.Reworded schema')
    (name : String) :
    Run.Follows Ty.Reworded (buildNamed ties name schema) (buildNamed ties' name schema') := by
  have whole := follows_translate legible follows reworded name
  have each : ∀ member ∈ schema.members, ∀ context,
      Run.Follows Ty.Reworded (translate ties member context) (translate ties' member context) :=
    fun member _ => follows_translate legible follows (Reworded.refl member)
  have facts := reworded.facts
  have kind : schema'.kind = schema.kind := facts.kind
  unfold buildNamed
  rw [kind]
  cases schema.kind with
  | object =>
      have required : schema'.facts.required = schema.facts.required := by rw [facts.same]
      dsimp only
      rw [reworded.isEmpty_properties]
      split
      · exact whole
      · unfold recordOf
        rw [required]
        exact follows_record facts (follows_translateFields reworded.properties
          fun property _ schema' restated => follows_translate legible follows restated)
  | allOf =>
      dsimp only
      rw [reworded.members]
      exact .bind (follows_translateTyped each) fun _ _ same => follows_combine follows facts same
  | union =>
      dsimp only
      rw [reworded.members, facts.nullable]
      have numbered : Run.Follows (List.Forall₂ Ty.Reworded)
          (buildNamed.translateNumbered ties name schema.members)
          (buildNamed.translateNumbered ties' name schema.members) :=
        .mapM_same fun part among => each _ (List.fst_mem_of_mem_zipIdx among) _
      refine .bind numbered fun types types' same => ?_
      have maps : types'.map Ty.undescribed = types.map Ty.undescribed := map_eq_of_forall₂ same
      have union : (Ty.union (some name) types).Reworded (.union (some name) types') := by
        unfold Ty.Reworded
        rw [Ty.undescribed_union, Ty.undescribed_union, maps]
      rw [union.isNilable]
      split
      · refine .pure ?_
        unfold Ty.Reworded
        rw [Ty.undescribed_union, Ty.undescribed_union, List.map_append, List.map_append, maps]
      · exact .pure union
  | _ => exact whole

end

/-! ## The ties of the program -/

theorem Ties.tracks_within (legible : offer.Legible)
    (counterpart : Node.Counterpart offer contract .schemas schemas schemas') (bound : Nat) :
    (Ties.within schemas bound).Tracks offer contract (Ties.within schemas' bound) := by
  induction bound with
  | zero => exact ⟨counterpart, fun _ => .throw, fun _ => .throw⟩
  | succ bound ih =>
      have builds {node node' : Node} (own : Node.Counterpart offer contract .schema node node')
          (name : String) : Run.Follows Ty.Reworded
            (do buildNamed (Ties.within schemas bound) name (← Run.lift (parse node)))
            (do buildNamed (Ties.within schemas' bound) name (← Run.lift (parse node'))) :=
        .bind (.lift fun _ parsed => exists_parse_enriched own legible parsed)
          fun _ _ reworded => follows_buildNamed legible ih reworded name
      refine ⟨counterpart, fun name => ?_, fun name => ?_⟩
      · exact .bind (.of_agree (counterpart.required rfl)) fun _ _ own => .register (builds own name)
      · exact .bind (.of_agree (counterpart.required rfl)) fun _ _ own => builds own name

theorem componentBound_enriched
    (counterpart : Node.Counterpart offer contract .schemas schemas schemas') :
    componentBound schemas' = componentBound schemas := by
  unfold componentBound
  rw [counterpart.value_elements rfl rfl]

end Translation

/-! ## Translators -/

namespace Translator

variable {offer : Offer} {contract : Json} {translator translator' : Translator}

/-- The translators of two documents whose ties follow. -/
def TiesTrack (offer : Offer) (contract : Json) (translator translator' : Translator) : Prop :=
  translator.ties.Tracks offer contract translator'.ties

theorem follows_create (legible : offer.Legible) {document document' : Node}
    (counterpart : Node.Counterpart offer contract .contract document document') :
    Run.Follows (TiesTrack offer contract) (create document) (create document') := by
  refine .bind (.of_agree (Contract.agree_schemas counterpart)) fun schemas schemas' own => ?_
  refine .read (by rw [own.value_elements rfl rfl]) fun _ _ => ?_
  refine .bind (.onRegistry fun _ _ reworded => reworded.reserve _) fun _ _ _ => .pure ?_
  unfold TiesTrack
  rw [Translation.componentBound_enriched own]
  exact Translation.Ties.tracks_within legible own _

theorem follows_components (follows : translator.TiesTrack offer contract translator') :
    Run.Follows Eq translator.components translator'.components :=
  .read (follows.schemas.value_elements rfl rfl) fun _ _ => .forM fun _ =>
    .read rfl fun text _ => .bind (follows.component text) fun _ _ _ => .pure rfl

/-- A schema that is the same in both documents has reworded types. -/
theorem follows_translateNode (legible : offer.Legible)
    (follows : translator.TiesTrack offer contract translator') (node : Node) (context : String) :
    Run.Follows Ty.Reworded (translator.translateNode node context)
      (translator'.translateNode node context) :=
  .read rfl fun schema _ => Translation.follows_translate legible follows (.refl schema) context

end Translator

end TypedContract
