/-
# TypedContract.Proofs.Signature.Following -- signatures of an enriched contract

The signature of an operation of an enriched contract is that of the operation before, up
to the descriptions of types and the descriptions and annotations of parameters
(`follows_build`).  An operation that cannot be mapped still cannot be.

A parameter of the contract may be given examples and a description, and of all else a
reader finds in it the same (`Reread`); a header of an encoding and a response are the same
node on both sides.  What an operation refers to is found at the end of chains that agree
(`EnrichedTo.resolve`).
-/
import TypedContract.Proofs.Example.Annotating
import TypedContract.Proofs.Signature.Chain
import TypedContract.Proofs.Translation.Following

namespace TypedContract

set_option autoImplicit false

open Contract (Part Shared)

/-! ## Without descriptions -/

/-- A parameter without descriptions and annotations. -/
def Parameter.undescribed (parameter : Parameter) : Parameter :=
  { parameter with type := parameter.type.undescribed, description := "", annotations := [] }

/-- The parameters differ in descriptions and annotations only. -/
def Parameter.Reworded (parameter parameter' : Parameter) : Prop :=
  parameter'.undescribed = parameter.undescribed

theorem Parameter.Reworded.display {parameter parameter' : Parameter}
    (same : parameter.Reworded parameter') : parameter'.display = parameter.display := by
  have erased := congrArg Parameter.display same
  exact erased

/-- A signature whose types and parameters have no descriptions and no annotations. -/
def Signature.undescribed (signature : Signature) : Signature :=
  { signature with
    parameters := signature.parameters.map Parameter.undescribed
    returnType := signature.returnType.map Ty.undescribed }

/-- The signatures differ in the descriptions of types and parameters and in annotations
only. -/
def Signature.Reworded (signature signature' : Signature) : Prop :=
  signature'.undescribed = signature.undescribed

/-! ## Steps that may give an operation up -/

namespace Mapping

variable {α β γ δ : Type} {related : α → β → Prop} {final : γ → δ → Prop}
  {step : Mapping α} {step' : Mapping β}

/-- Whenever the first step comes back, so does the second, and it gives the operation up
exactly when the first does. -/
def Follows (related : α → β → Prop) (step : Mapping α) (step' : Mapping β) : Prop :=
  Run.Follows (Option.Rel related) step.run step'.run

namespace Follows

theorem pure {a : α} {b : β} (own : related a b) : Follows related (Pure.pure a) (Pure.pure b) :=
  Run.Follows.pure (.some own)

theorem bind {next : α → Mapping γ} {next' : β → Mapping δ} (first : Follows related step step')
    (rest : ∀ a b, related a b → Follows final (next a) (next' b)) :
    Follows final (step >>= next) (step' >>= next') := by
  unfold Follows
  rw [OptionT.run_bind, OptionT.run_bind]
  refine Run.Follows.bind first fun found found' own => ?_
  cases own with
  | none => exact Run.Follows.pure .none
  | some own => exact rest _ _ own

/-- A step that always goes on. -/
theorem lift {first : Run α} {first' : Run β} (follows : Run.Follows related first first') :
    Follows related (OptionT.lift first) (OptionT.lift first') := by
  unfold Follows
  rw [OptionT.run_lift, OptionT.run_lift]
  exact .bind follows fun _ _ own => .pure (.some own)

theorem of_agree {result : Except Fault α} {result' : Except Fault β}
    (agree : Agree related result result') :
    Follows related (Mapping.lift result) (Mapping.lift result') :=
  lift (.of_agree agree)

/-- A result that is the same on both sides. -/
theorem read {result result' : Except Fault α} {next : α → Mapping γ} {next' : α → Mapping δ}
    (same : result' = result) (rest : ∀ a, Follows final (next a) (next' a)) :
    Follows final (Mapping.lift result >>= next) (Mapping.lift result' >>= next') :=
  bind (of_agree (.of_eq same)) fun a _ own => own ▸ rest a

theorem giveUp {code : Diagnostic.Code} {args : List String} :
    Follows related (Mapping.giveUp code args) (Mapping.giveUp code args) :=
  bind (lift Run.Follows.report) fun _ _ _ => Run.Follows.pure .none

end Follows

end Mapping

namespace SignatureBuilder

variable {offer : Offer} {contract : Json} {builder builder' : SignatureBuilder}

/-- The builders of a contract whose references lead to components and of what it was
enriched to. -/
structure EnrichedTo (offer : Offer) (contract : Json) (builder builder' : SignatureBuilder) :
    Prop where
  refers : contract.refersInto Part.referred = true
  before : builder.document = .root 0 contract
  after : ∃ enriched, builder'.document = .root 0 enriched ∧
    contract.Enriched offer .contract enriched
  translator : builder.translator.TiesTrack offer contract builder'.translator
  configuration : builder'.configuration = builder.configuration

theorem EnrichedTo.resolve (follows : builder.EnrichedTo offer contract builder') {kind : Shared}
    {raw raw' : Node} (kindred : Node.Kindred offer contract kind raw raw') :
    Agree (Node.Kindred offer contract kind) (builder.resolve raw) (builder'.resolve raw') := by
  obtain ⟨enriched, after, own⟩ := follows.after
  exact agree_resolve follows.refers follows.before after own kindred

section

variable (legible : offer.Legible) (follows : builder.EnrichedTo offer contract builder')

include follows

theorem follows_resolved {kind : Shared} {raw raw' : Node}
    (kindred : Node.Kindred offer contract kind raw raw') :
    Mapping.Follows (Node.Kindred offer contract kind) (builder.resolved raw)
      (builder'.resolved raw') := by
  have ⟨part, referred, counterpart⟩ := kindred
  have ends := follows.resolve kindred
  unfold resolved
  generalize builder.resolve raw = found, builder'.resolve raw' = found' at ends
  cases ends with
  | ok own => exact .pure own
  | @error fault =>
      cases fault with
      | missingKey key =>
          exact .read (counterpart.value_member (part.writes_of_not_mem (by decide))
            (Part.quiet_ref_of_referred referred)) fun _ => .giveUp
      | _ => exact .lift (.lift nofun)

/-! ## Parameters -/

include legible

theorem follows_typeAndDefault (schema : Node) (name context : String) :
    Run.Follows (fun found found' => found.1.Reworded found'.1 ∧ found'.2 = found.2)
      (builder.typeAndDefault schema name context)
      (builder'.typeAndDefault schema name context) := by
  unfold typeAndDefault
  split
  · exact .pure ⟨.refl _, rfl⟩
  · refine .bind (Translator.follows_translateNode legible follows.translator schema _)
      fun type type' same => .read rfl fun default _ => ?_
    split
    · exact .bind .report fun _ _ _ => .pure ⟨same, rfl⟩
    · exact .pure ⟨same, rfl⟩

end

theorem follows_checkType {kind : ParameterKind} {type type' : Ty} (same : type.Reworded type')
    (name : String) :
    Mapping.Follows Eq (checkType kind type name) (checkType kind type' name) := by
  unfold checkType
  refine .bind (.lift Run.Follows.registry) fun registry registry' reworded => ?_
  cases kind with
  | path =>
      refine .read (reworded.isScalar same) fun fits => ?_
      cases fits
      · exact .giveUp
      · exact .pure rfl
  | header =>
      refine .read (reworded.isHeaderType same) fun fits => ?_
      cases fits
      · exact .giveUp
      · exact .pure rfl
  | _ => exact .pure rfl

/-- What the type and the kind of a parameter are made from is the same, and its description
and its examples can be read when they could be before. -/
structure Reread (old new : Node) : Prop where
  name : new.value.required "name" = old.value.required "name"
  schema : schemaOf new = schemaOf old
  flag : new.value.member "required" = old.value.member "required"
  description : Agree Json.Reworded (old.value.member "description") (new.value.member "description")
  annotations : ∀ name, Run.Follows (fun _ _ => True) (Example.annotationsFor old.value name)
    (Example.annotationsFor new.value name)

theorem Reread.refl (legible : offer.Legible) (node : Node) : Reread node node :=
  ⟨rfl, rfl, rfl, (Agree.refl _).mono fun same => .inl same.symm, fun _ =>
    Example.follows_annotationsFor (.refl .other node.value) legible fun _ => rfl⟩

theorem Reread.of_counterpart (legible : offer.Legible) {part : Part} {old new : Node}
    (parameter : part.isParameter = true)
    (counterpart : Node.Counterpart offer contract part old new) : Reread old new := by
  have quiet := Part.quiet_of_isParameter parameter
  have unwritten {name : String} (apart : name ∉ Part.written) := part.writes_of_not_mem apart
  refine ⟨counterpart.value_required (unwritten (by decide)) (quiet _), ?_,
    counterpart.value_member (unwritten (by decide)) (quiet _),
    counterpart.value.member_description legible (quiet _),
    fun _ => Example.follows_annotationsFor counterpart.value legible fun which => quiet _⟩
  unfold schemaOf
  rw [counterpart.member_eq (unwritten (by decide)) (quiet "schema"),
    counterpart.member_eq (unwritten (by decide)) (quiet "content")]

section

variable (legible : offer.Legible) (follows : builder.EnrichedTo offer contract builder')

include legible follows

theorem follows_parameter {raw raw' : Node} (reread : Reread raw raw') (kind : ParameterKind)
    (context : String) :
    Mapping.Follows Parameter.Reworded (builder.parameter raw kind context)
      (builder'.parameter raw' kind context) := by
  unfold parameter
  refine .read reread.name fun named => .read reread.schema fun schema => ?_
  refine .read rfl fun name => ?_
  refine .bind (.lift (follows_typeAndDefault legible follows schema name context))
    fun found found' own => ?_
  obtain ⟨type, default⟩ := found
  obtain ⟨type', default'⟩ := found'
  obtain ⟨same, rfl⟩ := own
  refine .bind (follows_checkType same name) fun _ _ _ => .read reread.flag fun flag => ?_
  rw [follows.configuration, same.isNilable]
  have described : Run.Follows (fun _ _ => True)
      (Run.lift do Schema.strip ((← raw.value.member "description").orElse (.str "")))
      (Run.lift do Schema.strip ((← raw'.value.member "description").orElse (.str ""))) := by
    refine .found fun text stripped => ?_
    obtain ⟨words, held, stripped⟩ := except_bind_eq_ok.1 stripped
    obtain ⟨words', held', reworded⟩ := reread.description.exists_right held
    obtain ⟨text', stripped'⟩ := Schema.exists_strip_reworded reworded.orElse stripped
    exact ⟨text', except_bind_eq_ok.2 ⟨words', held', stripped'⟩⟩
  refine .bind (.lift described) fun _ _ _ => ?_
  refine .bind (.lift (reread.annotations name)) fun _ _ _ => .pure ?_
  unfold Parameter.Reworded Parameter.undescribed
  simp only
  rw [same]

end

/-- The members of a parameter that tell parameters apart are the same. -/
theorem member?_of_kindred {old new : Node} (kindred : Node.Kindred offer contract .parameter old new)
    {name : String} (apart : name ∉ Part.written) :
    new.value.member? name = old.value.member? name := by
  obtain ⟨part, referred, counterpart⟩ := kindred
  exact counterpart.value_member? (part.writes_of_not_mem apart)
    (Part.quiet_of_isParameter (Part.isParameter_of_referred referred) name)

theorem member_of_kindred {old new : Node} (kindred : Node.Kindred offer contract .parameter old new)
    {name : String} (apart : name ∉ Part.written) :
    new.value.member name = old.value.member name := by
  unfold Json.member
  rw [member?_of_kindred kindred apart]

theorem sameKey_of_kindred {a a' b b' : Node} (first : Node.Kindred offer contract .parameter a a')
    (second : Node.Kindred offer contract .parameter b b') : sameKey a' b' = sameKey a b := by
  unfold sameKey
  rw [member_of_kindred first (by decide), member_of_kindred first (by decide),
    member_of_kindred second (by decide), member_of_kindred second (by decide)]

/-- Parameters that are told apart in the same way replace each other in the same places. -/
theorem agree_override {related : Node → Node → Prop}
    (compares : ∀ {a a' b b' : Node}, related a a' → related b b' → sameKey a' b' = sameKey a b)
    {parameter parameter' : Node} (own : related parameter parameter') {kept kept' : List Node}
    (keeps : List.Forall₂ related kept kept') :
    Agree (List.Forall₂ related) (override parameter kept) (override parameter' kept') := by
  induction keeps with
  | nil => exact .ok (.cons own .nil)
  | cons head tail ih =>
      unfold override
      refine .read (compares own head) fun same _ => ?_
      split
      · exact .ok (.cons own tail)
      · exact ih.bind fun _ _ rest => .ok (.cons head rest)

theorem kindOf_of_kindred {raw raw' : Node} (kindred : Node.Kindred offer contract .parameter raw raw') :
    kindOf raw' = kindOf raw := by
  unfold kindOf
  rw [member?_of_kindred kindred (by decide)]

section

variable (legible : offer.Legible) (follows : builder.EnrichedTo offer contract builder')

include follows

theorem follows_declared {raw raw' : List Node}
    (listed : List.Forall₂ (Node.Kindred offer contract .parameter) raw raw') {kept kept' : List Node}
    (keeps : List.Forall₂ (Node.Kindred offer contract .parameter) kept kept') :
    Mapping.Follows (List.Forall₂ (Node.Kindred offer contract .parameter))
      (builder.declared kept raw) (builder'.declared kept' raw') := by
  induction listed generalizing kept kept' with
  | nil => exact .pure keeps
  | cons head tail ih =>
      unfold declared
      refine .bind (follows_resolved follows head) fun parameter parameter' own => ?_
      refine .bind (.of_agree ?_) fun _ _ placed => ih placed
      exact .read (member_of_kindred own (by decide)) fun _ _ =>
        agree_override sameKey_of_kindred own keeps

omit follows in
theorem follows_noteSkipped {place name : Json} :
    Run.Follows Eq (noteSkipped place name) (noteSkipped place name) := by
  unfold noteSkipped
  split
  · exact .note
  · exact .pure rfl

include legible

theorem follows_placed (context : String) {raw raw' : List Node}
    (listed : List.Forall₂ (Node.Kindred offer contract .parameter) raw raw') :
    Mapping.Follows (List.Forall₂ Parameter.Reworded) (builder.placed context raw)
      (builder'.placed context raw') := by
  induction listed with
  | nil => exact .pure .nil
  | @cons first first' rest rest' head tail ih =>
      refine .read (kindOf_of_kindred head) fun kind => ?_
      have placedFirst {kind : ParameterKind} : Mapping.Follows (List.Forall₂ Parameter.Reworded)
          (do
            let parameter ← builder.parameter first kind context
            return parameter :: (← builder.placed context rest))
          (do
            let parameter ← builder'.parameter first' kind context
            return parameter :: (← builder'.placed context rest')) := by
        obtain ⟨part, referred, counterpart⟩ := head
        have reread := Reread.of_counterpart legible (Part.isParameter_of_referred referred) counterpart
        exact .bind (follows_parameter legible follows reread kind context) fun _ _ own =>
          .bind ih fun _ _ others => .pure (.cons own others)
      cases kind with
      | other =>
          refine .read (member_of_kindred head (by decide)) fun place => ?_
          refine .read (member_of_kindred head (by decide)) fun name => ?_
          exact .bind (.lift follows_noteSkipped) fun _ _ _ => ih
      | _ => exact placedFirst

theorem follows_declaredParameters {operation operation' shared shared' : Node} (context : String)
    (operations : Node.Counterpart offer contract .operation operation operation')
    (shareds : Node.Counterpart offer contract .itemParameters shared shared') :
    Mapping.Follows (List.Forall₂ Parameter.Reworded)
      (builder.declaredParameters operation shared context)
      (builder'.declaredParameters operation' shared' context) := by
  unfold declaredParameters
  refine .bind (.of_agree ((shareds.orElse rfl rfl).elements rfl)) fun _ _ above => ?_
  refine .bind (.of_agree (Contract.agree_parameters operations)) fun _ _ own => ?_
  have listed := List.rel_append
    (above.imp fun _ _ given => (⟨_, rfl, given⟩ : Node.Kindred offer contract .parameter _ _))
    (own.imp fun _ _ given => (⟨_, rfl, given⟩ : Node.Kindred offer contract .parameter _ _))
  exact .bind (follows_declared follows listed .nil) fun _ _ kept =>
    follows_placed legible follows context kept

/-! ## Request bodies -/

/-- Named nodes that are counterparts under the same names. -/
abbrev NamedCounterparts (offer : Offer) (contract : Json) (part : Part)
    (entry entry' : String × Node) : Prop :=
  entry'.1 = entry.1 ∧ Node.Counterpart offer contract part entry.2 entry'.2

theorem follows_headerParameters (context : String) {headers headers' : List (String × Node)}
    (named : List.Forall₂ (NamedCounterparts offer contract (.use .header)) headers headers') :
    Mapping.Follows (List.Forall₂ Parameter.Reworded) (builder.headerParameters context headers)
      (builder'.headerParameters context headers') := by
  induction named with
  | nil => exact .pure .nil
  | @cons header header' rest rest' head tail ih =>
      obtain ⟨name, raw⟩ := header
      obtain ⟨name', raw'⟩ := header'
      obtain ⟨rfl, own⟩ := head
      unfold headerParameters
      refine .bind (follows_resolved follows ⟨_, rfl, own⟩) fun header header' kindred => ?_
      obtain ⟨part, referred, counterpart⟩ := kindred
      rw [counterpart.eq_of_quiet (Part.quiet_of_referred referred (.inr rfl))]
      refine .read rfl fun node => ?_
      refine .bind (follows_parameter legible follows (.refl legible node) .header context)
        fun _ _ first => ?_
      exact .bind ih fun _ _ others => .pure (.cons first others)

theorem follows_encodingParameters (context : String) {encodings encodings' : List (String × Node)}
    (named : List.Forall₂ (NamedCounterparts offer contract .encoding) encodings encodings') :
    Mapping.Follows (List.Forall₂ Parameter.Reworded) (builder.encodingParameters context encodings)
      (builder'.encodingParameters context encodings') := by
  induction named with
  | nil => exact .pure .nil
  | @cons encoding encoding' rest rest' head tail ih =>
      obtain ⟨-, own⟩ := head
      unfold encodingParameters
      refine .bind (.of_agree ((own.member rfl).bind fun _ _ headers =>
        (headers.orElse rfl rfl).entries rfl)) fun _ _ headers => ?_
      refine .bind (follows_headerParameters legible follows context headers) fun _ _ first => ?_
      exact .bind ih fun _ _ others => .pure (List.rel_append first others)

theorem follows_mediaParameters (context : String) {medias medias' : List (String × Node)}
    (named : List.Forall₂ (NamedCounterparts offer contract .media) medias medias') :
    Mapping.Follows (List.Forall₂ Parameter.Reworded) (builder.mediaParameters context medias)
      (builder'.mediaParameters context medias') := by
  induction named with
  | nil => exact .pure .nil
  | @cons media media' rest rest' head tail ih =>
      obtain ⟨-, own⟩ := head
      unfold mediaParameters
      refine .bind (.of_agree ((own.member rfl).bind fun _ _ encodings =>
        (encodings.orElse rfl rfl).entries rfl)) fun _ _ encodings => ?_
      refine .bind (follows_encodingParameters legible follows context encodings) fun _ _ first => ?_
      exact .bind ih fun _ _ others => .pure (List.rel_append first others)

end

/-! ### Media types -/

theorem firstHeld?_enriched {content content' : Node}
    (counterpart : Node.Counterpart offer contract .content content content') (names : List String) :
    firstHeld? content'.value names = firstHeld? content.value names := by
  induction names with
  | nil => rfl
  | cons name rest ih => rw [firstHeld?, firstHeld?, counterpart.holds rfl, ih]

theorem selectMediaType_enriched {content content' : Node}
    (counterpart : Node.Counterpart offer contract .content content content') :
    selectMediaType content'.value = selectMediaType content.value := by
  unfold selectMediaType
  rw [firstHeld?_enriched counterpart, counterpart.value_elements rfl rfl]

/-- A media type that may have been given examples, and nothing else. -/
structure MayIllustrate (offer : Offer) (media media' : Node) : Prop where
  schema : media'.member "schema" = media.member "schema"
  value : ∃ part : Part, (∀ which : Example.Which, (part.child which.key).quiet = true) ∧
    media.value.Enriched offer part media'.value

theorem MayIllustrate.refl (media : Node) : MayIllustrate offer media media :=
  ⟨rfl, .other, fun _ => rfl, .refl _ _⟩

/-- A content is asked for a media type with the same answer. -/
theorem agree_index {content content' : Node}
    (counterpart : Node.Counterpart offer contract .content content content') (key : Json) :
    Agree (MayIllustrate offer) (content.index key) (content'.index key) := by
  have still (same : content'.value = content.value) :
      Agree (MayIllustrate offer) (content.index key) (content'.index key) := by
    have whole : content' = content := by
      cases content
      cases content'
      cases same
      cases counterpart.place
      rfl
    rw [whole]
    exact (Agree.refl _).mono fun same => same ▸ .refl _
  obtain ⟨entries, entries', object, object', -⟩ | ⟨items, items', list, list', own⟩ | ⟨-, same⟩ :=
    counterpart.value.cases
  · unfold Node.index
    rw [object, object']
    cases key with
    | str name =>
        exact (counterpart.required rfl).mono fun own =>
          ⟨own.member_eq rfl rfl, _, fun which => by cases which <;> rfl, own.value⟩
    | _ => exact .read rfl fun _ _ => .error
  · exact still (by rw [list, list', own.eq_of_quiet rfl])
  · exact still same

section

variable (legible : offer.Legible) (follows : builder.EnrichedTo offer contract builder')

include legible follows

theorem follows_payload (context : String) {body body' content content' : Node}
    (bodies : Node.Kindred offer contract .body body body')
    (contents : Node.Counterpart offer contract .content content content') :
    Run.Follows Parameter.Reworded (builder.payload body content context)
      (builder'.payload body' content' context) := by
  obtain ⟨part, referred, counterpart⟩ := bodies
  obtain ⟨plain, -, description⟩ := Part.body_of_referred referred
  have text := counterpart.value_member (Part.writes_of_plain plain "description")
    (by rw [description]; rfl)
  unfold payload
  refine .read (selectMediaType_enriched contents) fun mediaType _ => ?_
  have medias := agree_index contents mediaType
  have schemas : mediaSchema content' mediaType = mediaSchema content mediaType :=
    (medias.bind fun _ _ own => Agree.of_eq own.schema).eq
  rw [text]
  cases mediaType.truthy with
  | true =>
      refine .read schemas fun schema _ => ?_
      refine .bind (Translator.follows_translateNode legible follows.translator schema _)
        fun type type' same => .read rfl fun text _ => ?_
      refine .bind (.of_agree medias) fun media media' ⟨_, part, quiet, own⟩ => ?_
      refine .bind (Example.follows_annotationsFor own legible quiet) fun _ _ _ => .pure ?_
      unfold Parameter.Reworded Parameter.undescribed
      simp only
      rw [same]
  | false =>
      refine .bind (.pure (Eq.refl (Node.free .null))) fun schema _ own => own ▸ ?_
      refine .bind (Translator.follows_translateNode legible follows.translator _ _)
        fun type type' same => .read rfl fun text _ => ?_
      refine .bind (.pure (Eq.refl ([] : List Annotation))) fun _ _ _ => .pure ?_
      unfold Parameter.Reworded Parameter.undescribed
      simp only
      rw [same]

theorem follows_bodyParameters (context : String) {operation operation' : Node}
    (operations : Node.Counterpart offer contract .operation operation operation') :
    Mapping.Follows (List.Forall₂ Parameter.Reworded) (builder.bodyParameters operation context)
      (builder'.bodyParameters operation' context) := by
  unfold bodyParameters
  refine .bind (.of_agree (operations.member rfl)) fun raw raw' own => ?_
  rw [own.truthy rfl]
  split
  · exact .pure .nil
  · refine .bind (follows_resolved follows ⟨_, rfl, own⟩) fun body body' kindred => ?_
    have ⟨part, referred, counterpart⟩ := kindred
    obtain ⟨plain, isContent, -⟩ := Part.body_of_referred referred
    refine .bind (.of_agree (counterpart.member (Part.writes_of_plain plain _)))
      fun content content' contents => ?_
    rw [isContent] at contents
    have held := contents.orElse rfl (show (Json.object []).truthy = false from rfl)
    refine .bind (.lift (follows_payload legible follows context kindred held)) fun _ _ first => ?_
    refine .bind (.of_agree (held.entries rfl)) fun _ _ medias => ?_
    exact .bind (follows_mediaParameters legible follows context medias) fun _ _ others =>
      .pure (.cons first others)

theorem follows_candidates (context : String) {operation operation' shared shared' : Node}
    (operations : Node.Counterpart offer contract .operation operation operation')
    (shareds : Node.Counterpart offer contract .itemParameters shared shared') :
    Mapping.Follows (List.Forall₂ Parameter.Reworded) (builder.candidates operation shared context)
      (builder'.candidates operation' shared' context) :=
  .bind (follows_declaredParameters legible follows context operations shareds) fun _ _ declared =>
    .bind (follows_bodyParameters legible follows context operations) fun _ _ body =>
      .pure (List.rel_append declared body)

/-! ## Responses -/

theorem follows_returnTypeOf (context : String) {responses responses' : Node}
    (own : Node.Counterpart offer contract .responses responses responses')
    (statuses : List String) :
    Run.Follows (Option.Rel Ty.Reworded) (builder.returnTypeOf responses context statuses)
      (builder'.returnTypeOf responses' context statuses) := by
  induction statuses with
  | nil => exact .pure .none
  | cons status rest ih =>
      unfold returnTypeOf
      split
      · exact ih
      · refine .bind (.of_agree (own.member rfl)) fun response response' given => ?_
        refine .read rfl fun _ _ => ?_
        have held := given.orElse rfl (show (Json.object []).truthy = false from rfl)
        have ends := follows.resolve ⟨_, rfl, held⟩
        generalize builder.resolve (response.orElse (.object [])) = found,
          builder'.resolve (response'.orElse (.object [])) = found' at ends
        cases ends with
        | @error fault =>
            cases fault with
            | missingKey key => exact ih
            | _ => exact .throw
        | @ok response response' kindred =>
            obtain ⟨part, referred, counterpart⟩ := kindred
            rw [counterpart.eq_of_quiet (Part.quiet_of_referred referred (.inl rfl))]
            refine .read rfl fun schema? _ => ?_
            cases schema? with
            | none => exact ih
            | some schema =>
                exact .map (Translator.follows_translateNode legible follows.translator schema _)
                  fun _ _ same => .some same

theorem follows_returnType (context : String) {operation operation' : Node}
    (operations : Node.Counterpart offer contract .operation operation operation') :
    Run.Follows (Option.Rel Ty.Reworded) (builder.returnType operation context)
      (builder'.returnType operation' context) := by
  unfold returnType
  refine .bind (.of_agree (operations.member rfl)) fun responses responses' own => ?_
  have held := own.orElse rfl (show (Json.object []).truthy = false from rfl)
  have listed := congrArg (· >>= (·.mapM Json.plainWithin)) (held.value_elements rfl rfl)
  refine .read listed fun statuses _ => ?_
  exact follows_returnTypeOf legible follows context held _

end

/-! ## Signatures -/

theorem follows_distinct (functionName : String) (seen : List String)
    {parameters parameters' : List Parameter}
    (same : List.Forall₂ Parameter.Reworded parameters parameters') :
    Run.Follows (List.Forall₂ Parameter.Reworded) (distinct functionName seen parameters)
      (distinct functionName seen parameters') := by
  induction same generalizing seen with
  | nil => exact .pure .nil
  | @cons parameter parameter' rest rest' head tail ih =>
      have display : parameter'.display = parameter.display := head.display
      unfold distinct
      rw [display]
      split
      · exact .bind .note fun _ _ _ => ih seen
      · exact .bind (ih _) fun _ _ others => .pure (.cons head others)

/-- The parameters without a default come first in both lists. -/
theorem undescribed_arranged {parameters parameters' : List Parameter}
    (same : List.Forall₂ Parameter.Reworded parameters parameters') :
    (parameters'.filter (·.required) ++ parameters'.filter (!·.required)).map Parameter.undescribed =
      (parameters.filter (·.required) ++ parameters.filter (!·.required)).map Parameter.undescribed := by
  have maps : parameters'.map Parameter.undescribed = parameters.map Parameter.undescribed :=
    map_eq_of_forall₂ same
  have filtered {keep : Parameter → Bool} (blind : keep ∘ Parameter.undescribed = keep)
      (list : List Parameter) : (list.filter keep).map Parameter.undescribed =
        (list.map Parameter.undescribed).filter keep := by
    rw [List.filter_map, blind]
  rw [List.map_append, List.map_append, filtered rfl, filtered rfl, filtered rfl, filtered rfl, maps]

section

variable (legible : offer.Legible) (follows : builder.EnrichedTo offer contract builder')

include legible follows

/-- An operation of an enriched contract has the signature it had, or none. -/
theorem follows_build (functionName method path : String) {operation operation' shared shared' : Node}
    (operations : Node.Counterpart offer contract .operation operation operation')
    (shareds : Node.Counterpart offer contract .itemParameters shared shared') :
    Run.Follows (Option.Rel Signature.Reworded)
      (builder.build functionName method path operation shared)
      (builder'.build functionName method path operation' shared') := by
  unfold build
  refine .bind .registry fun registry registry' reworded => ?_
  refine .bind (follows_candidates legible follows (Name.pascal functionName) operations shareds)
    fun found found' own => ?_
  cases own with
  | none =>
      refine .bind (.rollback (by rw [reworded.checkpoint])) fun _ _ _ => ?_
      refine .read (operations.value_member rfl rfl) fun operationId _ => ?_
      exact .read rfl fun label _ => .bind .report fun _ _ _ => .pure .none
  | some own =>
      refine .bind (follows_distinct functionName [] own) fun kept kept' same => ?_
      refine .read (operations.value_member rfl rfl) fun operationId _ => ?_
      refine .bind (follows_returnType legible follows _ operations) fun type type' returned => ?_
      refine .read (operations.value_member rfl rfl) fun summary _ => ?_
      refine .read (operations.value_member rfl rfl) fun text _ => .read rfl fun description _ => ?_
      refine .pure (.some ?_)
      have types : type'.map Ty.undescribed = type.map Ty.undescribed := by
        cases returned with
        | none => rfl
        | some same => exact congrArg some same
      unfold Signature.Reworded Signature.undescribed
      simp only
      rw [undescribed_arranged same, types]

end

end SignatureBuilder

end TypedContract
