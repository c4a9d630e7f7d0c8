/-
# TypedContract.Proofs.Signature.Rules -- what the parts of a signature pass on

A signature is built from many small steps, of which only the translation of a schema is
about types and only the registry is looked at.  `Run.Rules` lists what a property of
steps has to satisfy to be passed on from these steps to the building of parameters
(`SignatureBuilder.candidates`) and of what follows on them (`SignatureBuilder.signature`);
that translations have it is assumed where they are used.

The property may speak of types: of those that are known before a step and of those that
its result has.  What one step gives, the next one knows.
-/
import TypedContract.Signature.Builder

namespace TypedContract

set_option autoImplicit false

variable {α β : Type}

/-- A result without types. -/
def Run.untyped : α → List Ty := fun _ => []

/-- The types of a result, none when the operation is given up. -/
def Mapping.typesOf (types : α → List Ty) : Option α → List Ty
  | some a => types a
  | none => []

/-- A step keeps to a property of steps, without types when it gives the operation up. -/
def Mapping.KeepsTo (keeps : (α : Type) → List Ty → Run α → (α → List Ty) → Prop) (known : List Ty)
    (step : Mapping α) (types : α → List Ty) : Prop :=
  keeps (Option α) known step.run (typesOf types)

/-- The types of parameters. -/
def Parameter.types (parameters : List Parameter) : List Ty := parameters.map fun p => p.type

/-- The types of the parameters of a signature and its return type. -/
def Signature.types (signature : Signature) : List Ty :=
  Parameter.types signature.parameters ++ signature.returnType.toList

/-! ## The rules -/

/-- What a property of steps, of the types known before them and of the types of their
results has to satisfy to hold of the building of signatures. -/
structure Run.Rules (keeps : (α : Type) → List Ty → Run α → (α → List Ty) → Prop) : Prop where
  pure : ∀ {α : Type} {known : List Ty} {a : α} {types : α → List Ty},
    (∀ type ∈ types a, type ∈ known) → keeps α known (Pure.pure a) types
  /-- A result whose types refer to nothing. -/
  leaf : ∀ {α : Type} {known : List Ty} {a : α} {types : α → List Ty},
    (∀ type ∈ types a, type.references = []) → keeps α known (Pure.pure a) types
  bind : ∀ {α β : Type} {known : List Ty} {types : α → List Ty} {given : β → List Ty}
    {first : Run β} {next : β → Run α}, keeps β known first given →
      (∀ b, keeps α (given b ++ known) (next b) types) → keeps α known (first >>= next) types
  lift : ∀ {α : Type} {known : List Ty} {result : Except Fault α},
    keeps α known (Run.lift result) untyped
  registry : ∀ {known : List Ty}, keeps Registry known Run.registry untyped
  throw : ∀ {α : Type} {known : List Ty} {types : α → List Ty} {fault : Fault},
    keeps α known (MonadExcept.throw fault) types
  note : ∀ {known : List Ty} {level : Log.Level} {source : Log.Source} {message : String},
    keeps Unit known (Run.note level source message) untyped
  report : ∀ {known : List Ty} {code : Diagnostic.Code} {args : List String},
    code ≠ .danglingReference → keeps Unit known (Run.report code args) untyped

namespace Run.Rules

variable {keeps : (α : Type) → List Ty → Run α → (α → List Ty) → Prop} (rules : Run.Rules keeps)
  {known : List Ty} {types : α → List Ty}

include rules

/-- A first step whose result has no types. -/
theorem next {first : Run β} {next : β → Run α} (head : keeps β known first untyped)
    (tail : ∀ b, keeps α known (next b) types) : keeps α known (first >>= next) types :=
  rules.bind head fun b => tail b

/-- A result that is only read. -/
theorem read {result : Except Fault β} {next : β → Run α}
    (tail : ∀ b, keeps α known (next b) types) :
    keeps α known (Run.lift result >>= next) types :=
  rules.next rules.lift tail

theorem map {f : β → α} {given : β → List Ty} {first : Run β} (head : keeps β known first given)
    (covered : ∀ b, ∀ type ∈ types (f b), type ∈ given b ++ known) :
    keeps α known (f <$> first) types := by
  rw [map_eq_pure_bind]
  exact rules.bind head fun b => rules.pure (covered b)

/-! ## Steps that may give an operation up -/

theorem mappingPure {a : α} (covered : ∀ type ∈ types a, type ∈ known) :
    Mapping.KeepsTo keeps known (Pure.pure a) types :=
  rules.pure covered

theorem mappingBind {given : β → List Ty} {first : Mapping β} {next : β → Mapping α}
    (head : Mapping.KeepsTo keeps known first given)
    (tail : ∀ b, Mapping.KeepsTo keeps (given b ++ known) (next b) types) :
    Mapping.KeepsTo keeps known (first >>= next) types := by
  unfold Mapping.KeepsTo
  rw [OptionT.run_bind]
  refine rules.bind head fun result => ?_
  cases result with
  | some b => exact tail b
  | none => exact rules.pure (by simp [Mapping.typesOf])

theorem mappingNext {first : Mapping β} {next : β → Mapping α}
    (head : Mapping.KeepsTo keeps known first Run.untyped)
    (tail : ∀ b, Mapping.KeepsTo keeps known (next b) types) :
    Mapping.KeepsTo keeps known (first >>= next) types :=
  rules.mappingBind head fun b => tail b

/-- A step that always goes on. -/
theorem step {first : Run α} (head : keeps α known first types) :
    Mapping.KeepsTo keeps known (OptionT.lift first) types := by
  unfold Mapping.KeepsTo
  rw [OptionT.run_lift]
  exact rules.bind head fun a => rules.pure (by simp +contextual [Mapping.typesOf])

theorem mappingLift {result : Except Fault α} :
    Mapping.KeepsTo keeps known (Mapping.lift result) Run.untyped :=
  rules.step rules.lift

theorem mappingRead {result : Except Fault β} {next : β → Mapping α}
    (tail : ∀ b, Mapping.KeepsTo keeps known (next b) types) :
    Mapping.KeepsTo keeps known (Mapping.lift result >>= next) types :=
  rules.mappingNext rules.mappingLift tail

theorem giveUp {code : Diagnostic.Code} {args : List String}
    (other : code ≠ .danglingReference) :
    Mapping.KeepsTo keeps known (Mapping.giveUp code args : Mapping α) types :=
  rules.mappingNext (rules.step (rules.report other)) fun _ =>
    rules.pure (by simp [Mapping.typesOf])

/-! ## Examples -/

theorem annotate {which : Example.Which} {value : Literal} {name : String} :
    keeps _ known (Example.annotate which value name) untyped := by
  unfold Example.annotate
  split
  · exact rules.pure (by simp [untyped])
  · exact rules.next (rules.report (by decide)) fun _ => rules.pure (by simp [untyped])
  · exact rules.throw

theorem annotateBoth {example? : Option Literal} {examples : Literal} {name : String} :
    keeps _ known (Example.annotateBoth example? examples name) untyped := by
  unfold Example.annotateBoth
  split
  · exact rules.pure (by simp [untyped])
  · exact rules.annotate
  · exact rules.annotate
  · exact rules.next (rules.report (by decide)) fun _ => rules.pure (by simp [untyped])

/-- Annotations are without types. -/
theorem annotationsFor {node : Json} {name : String} :
    keeps _ known (Example.annotationsFor node name) untyped :=
  rules.read fun _ => rules.read fun _ => rules.annotateBoth

/-! ## Parameters -/

variable {builder : SignatureBuilder}

theorem resolved {raw : Node} : Mapping.KeepsTo keeps known (builder.resolved raw) untyped := by
  unfold SignatureBuilder.resolved
  split
  · exact rules.mappingPure (by simp [untyped])
  · exact rules.mappingRead fun _ => rules.giveUp (by decide)
  · exact rules.mappingLift

theorem checkType {kind : ParameterKind} {type : Ty} {name : String} :
    Mapping.KeepsTo keeps known (SignatureBuilder.checkType kind type name) untyped := by
  unfold SignatureBuilder.checkType
  refine rules.mappingNext (rules.step rules.registry) fun registry => ?_
  cases kind with
  | path =>
      refine rules.mappingRead fun fits => ?_
      cases fits
      · exact rules.giveUp (by decide)
      · exact rules.mappingPure (by simp [untyped])
  | header =>
      refine rules.mappingRead fun fits => ?_
      cases fits
      · exact rules.giveUp (by decide)
      · exact rules.mappingPure (by simp [untyped])
  | _ => exact rules.mappingPure (by simp [untyped])

theorem declared {raw : List Node} :
    ∀ {kept : List Node}, Mapping.KeepsTo keeps known (builder.declared kept raw) untyped := by
  induction raw with
  | nil => exact rules.mappingPure (by simp [untyped])
  | cons first rest ih =>
      exact rules.mappingNext rules.resolved fun _ => rules.mappingRead fun _ => ih

/-- Keeps the first parameter of each canonical name. -/
theorem distinct {functionName : String} {parameters : List Parameter}
    (covered : ∀ type ∈ Parameter.types parameters, type ∈ known) :
    ∀ {seen : List String}, keeps _ known
      (SignatureBuilder.distinct functionName seen parameters) Parameter.types := by
  induction parameters with
  | nil => exact rules.pure (by simp [Parameter.types])
  | cons parameter rest ih =>
      intro seen
      have first : parameter.type ∈ known := covered _ (by simp [Parameter.types])
      have others : ∀ type ∈ Parameter.types rest, type ∈ known := fun type member =>
        covered type (List.mem_cons_of_mem _ member)
      unfold SignatureBuilder.distinct
      split
      · exact rules.next rules.note fun _ => ih others
      · refine rules.bind (ih others) fun kept => rules.pure ?_
        simp only [Parameter.types, List.map_cons, List.mem_cons, List.mem_append]
        rintro type (rfl | member)
        · exact .inr first
        · exact .inl member

/-- A parameter before others adds its type to theirs. -/
theorem cons {first : Mapping Parameter} {rest : Mapping (List Parameter)}
    (head : Mapping.KeepsTo keeps known first fun parameter => [parameter.type])
    (tail : ∀ {known : List Ty}, Mapping.KeepsTo keeps known rest Parameter.types) :
    Mapping.KeepsTo keeps known (do let parameter ← first; return parameter :: (← rest))
      Parameter.types := by
  refine rules.mappingBind head fun parameter => rules.mappingBind tail fun parameters => ?_
  exact rules.mappingPure (by simp +contextual [Parameter.types])

/-- Lists of parameters one after the other have the types of each of them. -/
theorem append {first rest : Mapping (List Parameter)}
    (head : Mapping.KeepsTo keeps known first Parameter.types)
    (tail : ∀ {known : List Ty}, Mapping.KeepsTo keeps known rest Parameter.types) :
    Mapping.KeepsTo keeps known (do return (← first) ++ (← rest)) Parameter.types := by
  refine rules.mappingBind head fun parameters => rules.mappingBind tail fun more => ?_
  refine rules.mappingPure ?_
  simp only [Parameter.types, List.map_append, List.mem_append]
  rintro type (early | late)
  · exact .inr (.inl early)
  · exact .inl late

section

variable (translates : ∀ {known : List Ty} {node : Node} {context : String},
  keeps _ known (builder.translator.translateNode node context) fun type => [type])

include translates

theorem typeAndDefault {schema : Node} {name context : String} :
    keeps _ known (builder.typeAndDefault schema name context) fun found => [found.1] := by
  unfold SignatureBuilder.typeAndDefault
  split
  · exact rules.leaf (by simp [Ty.references])
  · refine rules.bind translates fun type => rules.read fun default => ?_
    split
    · exact rules.next (rules.report (by decide)) fun _ => rules.pure (by simp)
    · exact rules.pure (by simp)

theorem parameter {raw : Node} {kind : ParameterKind} {context : String} :
    Mapping.KeepsTo keeps known (builder.parameter raw kind context) fun found => [found.type] := by
  unfold SignatureBuilder.parameter
  refine rules.mappingRead fun named => rules.mappingRead fun schema => ?_
  refine rules.mappingRead fun name => ?_
  refine rules.mappingBind (rules.step (rules.typeAndDefault translates)) fun found => ?_
  refine rules.mappingNext rules.checkType fun _ => rules.mappingRead fun flag => ?_
  refine rules.mappingRead fun text => ?_
  exact rules.mappingNext (rules.step rules.annotationsFor) fun annotations =>
    rules.mappingPure (by simp)

omit translates in
theorem noteSkipped {place name : Json} :
    keeps _ known (SignatureBuilder.noteSkipped place name) untyped := by
  unfold SignatureBuilder.noteSkipped
  split
  · exact rules.note
  · exact rules.pure (by simp [untyped])

theorem placed {context : String} {raw : List Node} : ∀ {known : List Ty},
    Mapping.KeepsTo keeps known (builder.placed context raw) Parameter.types := by
  induction raw with
  | nil => exact rules.mappingPure (by simp [Parameter.types])
  | cons first rest ih =>
      intro known
      refine rules.mappingRead fun kind => ?_
      cases kind with
      | other =>
          refine rules.mappingRead fun _ => rules.mappingRead fun _ => ?_
          exact rules.mappingNext (rules.step rules.noteSkipped) fun _ => ih
      | _ => exact rules.cons (rules.parameter translates) ih

theorem declaredParameters {operation shared : Node} {context : String} :
    Mapping.KeepsTo keeps known (builder.declaredParameters operation shared context)
      Parameter.types := by
  refine rules.mappingRead fun _ => rules.mappingRead fun _ => ?_
  exact rules.mappingNext rules.declared fun _ => rules.placed translates

/-! ## Request bodies -/

theorem headerParameters {context : String} {headers : List (String × Node)} :
    ∀ {known : List Ty},
      Mapping.KeepsTo keeps known (builder.headerParameters context headers) Parameter.types := by
  induction headers with
  | nil => exact rules.mappingPure (by simp [Parameter.types])
  | cons header rest ih =>
      intro known
      refine rules.mappingNext rules.resolved fun _ => rules.mappingRead fun _ => ?_
      exact rules.cons (rules.parameter translates) ih

theorem encodingParameters {context : String} {encodings : List (String × Node)} :
    ∀ {known : List Ty},
      Mapping.KeepsTo keeps known (builder.encodingParameters context encodings)
        Parameter.types := by
  induction encodings with
  | nil => exact rules.mappingPure (by simp [Parameter.types])
  | cons encoding rest ih =>
      intro known
      exact rules.mappingRead fun _ => rules.append (rules.headerParameters translates) ih

theorem mediaParameters {context : String} {media : List (String × Node)} :
    ∀ {known : List Ty},
      Mapping.KeepsTo keeps known (builder.mediaParameters context media) Parameter.types := by
  induction media with
  | nil => exact rules.mappingPure (by simp [Parameter.types])
  | cons medium rest ih =>
      intro known
      exact rules.mappingRead fun _ => rules.append (rules.encodingParameters translates) ih

theorem payload {body content : Node} {context : String} :
    keeps _ known (builder.payload body content context) fun found => [found.type] := by
  unfold SignatureBuilder.payload
  refine rules.read fun mediaType => ?_
  cases mediaType.truthy with
  | true =>
      refine rules.read fun schema => rules.bind translates fun type => rules.read fun text => ?_
      refine rules.read fun media => rules.next rules.annotationsFor fun annotations => ?_
      exact rules.pure (by simp)
  | false =>
      refine rules.next (rules.pure (by simp [untyped])) fun schema => ?_
      refine rules.bind translates fun type => rules.read fun text => ?_
      exact rules.next (rules.pure (by simp [untyped])) fun annotations => rules.pure (by simp)

theorem bodyParameters {operation : Node} {context : String} :
    Mapping.KeepsTo keeps known (builder.bodyParameters operation context) Parameter.types := by
  unfold SignatureBuilder.bodyParameters
  refine rules.mappingRead fun raw => ?_
  split
  · exact rules.mappingPure (by simp [Parameter.types])
  · refine rules.mappingNext rules.resolved fun body => rules.mappingRead fun content => ?_
    refine rules.mappingBind (rules.step (rules.payload translates)) fun payload => ?_
    refine rules.mappingRead fun media => ?_
    refine rules.mappingBind (rules.mediaParameters translates) fun parameters => ?_
    exact rules.mappingPure (by simp +contextual [Parameter.types])

/-- What satisfies the rules holds of building the parameters of an operation. -/
theorem candidates {operation shared : Node} {context : String} :
    Mapping.KeepsTo keeps known (builder.candidates operation shared context) Parameter.types :=
  rules.append (rules.declaredParameters translates) (rules.bodyParameters translates)

/-! ## Signatures -/

theorem returnTypeOf {responses : Node} {context : String} {statuses : List String} :
    keeps _ known (builder.returnTypeOf responses context statuses) Option.toList := by
  induction statuses with
  | nil => exact rules.pure (by simp)
  | cons status rest ih =>
      unfold SignatureBuilder.returnTypeOf
      split
      · exact ih
      · refine rules.read fun response => rules.read fun _ => ?_
        split
        · exact ih
        · exact rules.throw
        · refine rules.read fun schema? => ?_
          cases schema? with
          | none => exact ih
          | some schema => exact rules.map translates (by simp)

theorem returnType {operation : Node} {context : String} :
    keeps _ known (builder.returnType operation context) Option.toList :=
  rules.read fun _ => rules.read fun _ => rules.returnTypeOf translates

/-- It also holds of what is done once the parameters of an operation are known. -/
theorem signature {functionName method path context : String} {operation : Node}
    {candidates : List Parameter} (covered : ∀ type ∈ Parameter.types candidates, type ∈ known) :
    keeps _ known (do
      let kept ← SignatureBuilder.distinct functionName [] candidates
      let operationId ← Run.lift (operation.value.member "operationId")
      let returnType ← builder.returnType operation context
      let summary ← Run.lift (operation.value.member "summary")
      let text ← Run.lift (operation.value.member "description")
      let description ← Run.lift (Schema.strip (summary.orElse (text.orElse (.str ""))))
      return some {
        functionName := functionName
        operationId := operationId
        method := method
        path := path
        parameters := kept.filter (·.required) ++ kept.filter (!·.required)
        returnType := returnType
        description := description
      }) (Mapping.typesOf Signature.types) := by
  refine rules.bind (rules.distinct covered) fun kept => rules.read fun operationId => ?_
  refine rules.bind (rules.returnType translates) fun returnType => rules.read fun summary => ?_
  refine rules.read fun text => rules.read fun description => ?_
  refine rules.pure fun type member => ?_
  simp only [Mapping.typesOf, Signature.types, Parameter.types, List.map_append, List.mem_append,
    List.mem_map, List.mem_filter] at member ⊢
  rcases member with (⟨p, ⟨held, -⟩, rfl⟩ | ⟨p, ⟨held, -⟩, rfl⟩) | returned
  · exact .inr (.inl ⟨p, held, rfl⟩)
  · exact .inr (.inl ⟨p, held, rfl⟩)
  · exact .inl returned

end

end Run.Rules

end TypedContract
