/-
# TypedContract.Proofs.Enrichment.Serving -- what an enrichment asks of an operation

An operation is served by the function with its identifier.  The examples of the function's
parameters are written onto the parameters that they stand for and onto the request body,
and its documentation onto the parameters that stand in the operation.  So the names that
are compared on the way have to be texts, references have to lead to something that can be
read, and what is to be written has to have a place: `ServesExamples` and
`ServesDescriptions` say this of one operation.

Parameters are looked for in the contract as it was before (`mirrors_findParameter?`), since
nothing that the search reads is written.
-/
import TypedContract.Proofs.Enrichment.Fitting

namespace TypedContract.Enrichment

set_option autoImplicit false

open Contract (Part Shared)
open Edit (Mirrors Succeeds)

/-! ## Looking parts up -/

section

variable {offer : Offer} {contract : Json} {part : Part} {origin node : Node}
  {location wanted : String}

/-- A reference leads where it led in the contract before. -/
theorem mirrors_resolve? {kind : Shared} (refers : RefersInto contract)
    (looked : part.lookedUp = some kind)
    (counterpart : Node.Counterpart offer contract part origin node) :
    Mirrors offer contract (referred (.root 0 contract) origin)
      (Option.Rel (Node.Counterpart offer contract (.entry kind))) (resolve? node) := by
  have unwritten : part.writes "$ref" = false := part.writes_of_not_mem (by decide)
  unfold resolve? referred
  refine .bind (.read (counterpart.value_required unwritten (quiet_of_lookedUp looked)))
    fun ref _ held same => ?_
  subst same
  refine .next .root fun root top => ?_
  have resolved : Agree (Node.Counterpart offer contract (.entry kind))
      (Pointer.resolve (.root 0 contract) ref) (Pointer.resolve root ref) := by
    cases ref with
    | str text => exact top.resolve (counterpart.refersTo refers looked held)
    | _ => exact .error
  generalize Pointer.resolve (.root 0 contract) ref = target, Pointer.resolve root ref = found
    at resolved
  cases resolved with
  | ok own =>
      dsimp only
      rw [own.isNull]
      split
      · exact .pure .none
      · exact .pure (.some own)
  | @error fault =>
      cases fault with
      | missingKey key => exact .pure .none
      | _ => exact .throw

/-- What an entry stands for: itself, or what its reference leads to. -/
theorem mirrors_entered {kind : Shared} (refers : RefersInto contract)
    (looked : part.lookedUp = some kind)
    (counterpart : Node.Counterpart offer contract part origin node) :
    Mirrors offer contract (entered (.root 0 contract) origin)
      (Option.Rel fun origin node => ∃ found, (found = part ∨ found = .entry kind) ∧
        Node.Counterpart offer contract found origin node)
      (do if ← Edit.lift (node.value.holds "$ref") then resolve? node else pure (some node)) := by
  have unwritten : part.writes "$ref" = false := part.writes_of_not_mem (by decide)
  refine .bind (.read (counterpart.holds unwritten)) fun isReference _ _ same => ?_
  subst same
  split
  · refine (mirrors_resolve? refers looked counterpart).mono fun found found' _ related => ?_
    cases related with
    | none => exact .none
    | some own => exact .some ⟨_, .inr rfl, own⟩
  · exact .pure (.some ⟨part, .inl rfl, counterpart⟩)

/-- The node is an entry of a list of parameters. -/
def InParameterList (offer : Offer) (contract : Json) (origin node : Node) : Prop :=
  ∃ part, part.lookedUp = some .parameter ∧ Node.Counterpart offer contract part origin node

/-- The node is a parameter of a location. -/
def Locates (offer : Offer) (contract : Json) (location : String) (origin node : Node) : Prop :=
  ∃ part, part.isParameter = true ∧ Node.Counterpart offer contract part origin node ∧
    origin.value.member "in" = .ok (.str location)

/-- The rest of the search once an entry stands for a parameter. -/
theorem mirrors_parameter {further : Edit (Option Node)} {found : Except Fault (Option Node)}
    (parameter : part.isParameter = true)
    (counterpart : Node.Counterpart offer contract part origin node)
    (rest : Mirrors offer contract found (Option.Rel (Locates offer contract location)) further) :
    Mirrors offer contract
      (do if ← isWanted location wanted origin then return some origin else found)
      (Option.Rel (Locates offer contract location))
      (do
        let place ← Edit.lift (node.value.member "in")
        if !place.same (.str location) then further
        else
          let name := (← Edit.lift (node.value.member? "name")).getD (.str "")
          if Name.display (← Edit.lift name.text) == wanted then return some node
          else further) := by
  have quiet := Part.quiet_of_isParameter parameter
  have place := part.writes_of_not_mem (show "in" ∉ Part.written by decide)
  have name := part.writes_of_not_mem (show "name" ∉ Part.written by decide)
  unfold isWanted
  simp only [bind_assoc]
  refine .bind (.read (counterpart.value_member place (quiet _))) fun here _ held same => ?_
  subst same
  cases located : here.same (.str location) with
  | false => exact rest
  | true =>
      obtain rfl := Json.same_text_iff.1 located
      simp only [Bool.not_true, Bool.false_eq_true, if_false, bind_assoc, pure_bind]
      refine .bind (.read (counterpart.value_member? name (quiet _))) fun named _ _ same => ?_
      subst same
      refine .bind (.read rfl) fun text _ _ same => ?_
      subst same
      split
      · exact .pure (.some ⟨part, parameter, counterpart, held⟩)
      · exact rest

/-- The search comes back with the parameter that is found in the contract before. -/
theorem mirrors_findParameter? {origins nodes : List Node} (refers : RefersInto contract)
    (listed : List.Forall₂ (InParameterList offer contract) origins nodes) :
    Mirrors offer contract (search (.root 0 contract) location wanted origins)
      (Option.Rel (Locates offer contract location)) (findParameter? location wanted nodes) := by
  induction listed with
  | nil => exact .pure .none
  | cons head tail ih =>
      obtain ⟨part, looked, counterpart⟩ := head
      have unwritten : part.writes "$ref" = false := part.writes_of_not_mem (by decide)
      unfold findParameter? search entered
      simp only [bind_assoc]
      refine .next (.refresh counterpart) fun raw counterpart => ?_
      refine .bind (.read (counterpart.holds unwritten)) fun isReference _ _ same => ?_
      subst same
      cases isReference with
      | false => exact mirrors_parameter (isParameter_of_lookedUp looked) counterpart ih
      | true =>
          refine .bind (mirrors_resolve? refers looked counterpart) fun _ _ _ found => ?_
          cases found with
          | none => exact ih
          | some own => exact mirrors_parameter rfl own ih

end

/-! ## Examples of parameters -/

/-- The entries can be searched for the parameter of a symbol, and its examples can be
written if there is one. -/
def FitsLocated (contract : Json) (kind : ParameterKind) (symbol : Symbol) (name : Json)
    (entries : List Node) : Prop :=
  ∃ text, name.text = .ok text ∧
    ∃ found, search (.root 0 contract) kind.word (Name.display text) entries = .ok found ∧
      (found.isSome = true → Example.WritableOnto symbol.annotations True)

/-- The request body, if there is any, can be read, and accepts the examples of a payload. -/
def FitsBody (contract : Json) (symbol : Symbol) (operation : Node) : Prop :=
  (operation.value.under "requestBody").isNull = false →
    ∃ found, entered (.root 0 contract) (operation.under "requestBody") = .ok found ∧
      Example.WritableOnto symbol.annotations (∀ body, found = some body → AcceptsExamples body)

/-- What the examples of a parameter ask of an operation with its entries. -/
def FitsParameter (contract : Json) (operation : Node) (entries : List Node) (symbol : Symbol) :
    Prop :=
  match symbol.classify with
  | .payload => FitsBody contract symbol operation
  | .query => FitsLocated contract .query symbol symbol.name entries
  | .header =>
      ∃ name, headerName symbol = .ok name ∧ FitsLocated contract .header symbol name entries
  | _ => True

/-- What the examples of a function ask of an operation with its entries. -/
structure FitsFunction (contract : Json) (operation : Node) (entries : List Node)
    (function : FunctionSymbol) : Prop where
  parameters : ∀ symbol ∈ function.parameters, FitsParameter contract operation entries symbol
  pathParameters : ∀ symbol ∈ function.pathParameters,
    FitsLocated contract .path symbol symbol.name entries

section

variable {model : SymbolModel} {contract : Json} {symbol : Symbol} {origin node : Node}
  {origins nodes : List Node}

theorem succeeds_parameterExamples {kind : ParameterKind} {name : Json} (refers : RefersInto contract)
    (member : symbol ∈ model.symbols) (located : kind ∈ [ParameterKind.path, .query, .header])
    (listed : List.Forall₂ (InParameterList model.offer contract) origins nodes) :
    Succeeds model.offer contract (FitsLocated contract kind symbol name origins)
      (parameterExamples kind symbol name nodes) := by
  unfold parameterExamples parameterOf?
  rw [bind_assoc]
  refine .after (.read rfl) fun text _ _ same => ?_
  subst same
  refine .after (mirrors_findParameter? refers listed) fun found target read related => ?_
  cases related with
  | none => exact Succeeds.pure.iff ⟨fun _ => nofun, fun _ => trivial⟩
  | @some origin target own =>
      obtain ⟨part, parameter, counterpart, place⟩ := own
      have object : origin.value.IsObject := by
        cases object : origin.value with
        | object entries => exact ⟨entries, rfl⟩
        | _ => rw [object] at place; cases place
      have takes (entries : List (String × Json)) (object : origin.value = .object entries) :
          Offer.TakesExamples part entries := by
        refine ⟨?_, fun _ => List.any_eq_true.2 ⟨kind, located, ?_⟩⟩
        · unfold Part.takesExamples
          split
          all_goals first | rfl | exact parameter
        · rw [Json.member_of_object object, Json.under, object] at place
          cases found : Json.find? "in" entries with
          | none =>
              rw [Json.held, found] at place
              cases place
          | some value =>
              rw [Json.held, found] at place
              cases place
              exact beq_self_eq_true _
      have run : Succeeds model.offer contract (Example.WritableOnto symbol.annotations True)
          (ExampleMapper.ofSymbol symbol (.node (kind.word ++ " parameter") target)).run :=
        succeeds_run fun which value found =>
          (succeeds_write_node rfl counterpart takes ⟨symbol, member, found⟩).iff
            (iff_true_intro object)
      exact run.iff ⟨fun writable _ => writable, fun writable => writable rfl⟩

/-- The examples of a payload onto the body that was found, if there is one. -/
theorem succeeds_bodyExamples {found body? : Option Node} (member : symbol ∈ model.symbols)
    (related : Option.Rel (fun origin node => ∃ part, (part = .use .body ∨ part = .entry .body) ∧
      Node.Counterpart model.offer contract part origin node) found body?) :
    Succeeds model.offer contract
      (Example.WritableOnto symbol.annotations (∀ body, found = some body → AcceptsExamples body))
      (ExampleMapper.ofSymbol symbol (.request body?)).run := by
  refine succeeds_run fun which value offered => ?_
  cases related with
  | none => exact (succeeds_write_nowhere rfl).iff ⟨fun _ => nofun, fun _ => trivial⟩
  | some own =>
      obtain ⟨part, kind, own⟩ := own
      refine (succeeds_write_body rfl kind own ⟨symbol, member, offered⟩).iff ?_
      exact ⟨fun accepts _ same => Option.some.inj same ▸ accepts, fun accepts => accepts _ rfl⟩

theorem succeeds_payloadExamples {entries : List (String × Json)} (refers : RefersInto contract)
    (member : symbol ∈ model.symbols) (object : origin.value = .object entries)
    (counterpart : Node.Counterpart model.offer contract .operation origin node) :
    Succeeds model.offer contract (FitsBody contract symbol origin)
      (payloadExamples symbol node) := by
  unfold payloadExamples FitsBody
  refine .given (.refresh counterpart) rfl fun operation counterpart => ?_
  refine .given (.ask (counterpart.member (by decide))) (Node.member_of_object object)
    fun body own => ?_
  have inPlace : Part.operation.child "requestBody" = .use .body := rfl
  rw [inPlace] at own
  rw [own.isNull, Node.value_under]
  split
  · next missing =>
      refine Succeeds.pure.iff ⟨fun _ present => ?_, fun _ => trivial⟩
      cases missing.symm.trans present
  · next present =>
      rw [Bool.not_eq_true] at present
      refine Succeeds.iff (?_ : Succeeds _ _ (∃ found, entered (.root 0 contract)
        (origin.under "requestBody") = .ok found ∧ _) _)
          ⟨fun fits _ => fits, fun fits => fits present⟩
      have whole := Succeeds.after (mirrors_entered refers rfl own)
        fun found body? _ related => succeeds_bodyExamples member related
      rw [bind_assoc] at whole
      convert whole using 3 with isReference
      split <;> rfl

theorem succeeds_symbolExamples {entries : List (String × Json)} (refers : RefersInto contract)
    (member : symbol ∈ model.symbols) (object : origin.value = .object entries)
    (counterpart : Node.Counterpart model.offer contract .operation origin node)
    (listed : List.Forall₂ (InParameterList model.offer contract) origins nodes) :
    Succeeds model.offer contract (FitsParameter contract origin origins symbol)
      (symbolExamples node nodes symbol) := by
  unfold symbolExamples FitsParameter
  cases symbol.classify with
  | payload => exact succeeds_payloadExamples refers member object counterpart
  | query => exact succeeds_parameterExamples refers member (by decide) listed
  | header =>
      refine .after (.read rfl) fun name _ _ same => ?_
      subst same
      exact succeeds_parameterExamples refers member (by decide) listed
  | path => exact .pure
  | other => exact .pure

end

/-! ## Operations -/

/-- The entries of an operation, and then those of its path. -/
def entriesAt (operation shared : Node) : Except Fault (List Node) := do
  return (← ownParameters operation) ++ (← shared.elements)

/-- The function of an operation can be looked up and its entries can be listed. -/
structure Walkable (operation shared : Node) : Prop where
  object : operation.value.IsObject
  identifier : ((operation.value.under "operationId").orElse (.str "")).isKey = true
  entries : ∃ entries, entriesAt operation shared = .ok entries

/-- What the examples of its function ask of an operation.  Examples only go to operations
with an identifier that counts. -/
def ServesExamples (symbols : SymbolModel) (contract : Json) (operation shared : Node) : Prop :=
  (operation.value.under "operationId").truthy = true → ∀ function entries,
    functionOf symbols operation = .ok (some function) → entriesAt operation shared = .ok entries →
      FitsFunction contract operation entries function

/-- What the descriptions of its function ask of an operation: what documents a parameter has
a name, and the parameters that stand in the operation are references or have names. -/
def ServesDescriptions (symbols : SymbolModel) (operation : Node) : Prop :=
  ∀ function, functionOf symbols operation = .ok (some function) →
    NamedByTexts (function.pathParameters ++ function.parameters) ∧
      ∀ parameters, ownParameters operation = .ok parameters → ∀ parameter ∈ parameters,
        parameter.value.holds "$ref" = .ok true ∨ ∃ text, Named parameter text

section

variable {model : SymbolModel} {contract : Json} {origin node shared shared' : Node}
  {function : FunctionSymbol}

theorem functionOf_of_object (model : SymbolModel) {entries : List (String × Json)}
    (object : origin.value = .object entries) :
    functionOf model origin =
      model.functionFor? ((origin.value.under "operationId").orElse (.str "")) := by
  unfold functionOf
  rw [Json.member_of_object object]
  rfl

theorem Walkable.exists_function (model : SymbolModel) (walkable : Walkable origin shared) :
    ∃ function?, functionOf model origin = .ok function? := by
  obtain ⟨entries, object⟩ := walkable.object
  obtain ⟨key, isKey⟩ := Json.exists_key_iff.2 walkable.identifier
  rw [functionOf_of_object model object]
  unfold SymbolModel.functionFor?
  rw [isKey]
  exact ⟨_, rfl⟩

theorem Walkable.exists_entries (walkable : Walkable origin shared) :
    ∃ own more, ownParameters origin = .ok own ∧ shared.elements = .ok more ∧
      entriesAt origin shared = .ok (own ++ more) := by
  obtain ⟨entries, walked⟩ := walkable.entries
  obtain ⟨own, here, further⟩ := except_bind_eq_ok.1 walked
  obtain ⟨more, there, same⟩ := except_bind_eq_ok.1 further
  obtain rfl := except_pure_eq_ok.1 same
  exact ⟨own, more, here, there, walked⟩

/-- Only an object that is empty does not count. -/
theorem servesExamples_of_not_truthy (silent : ¬ origin.value.truthy = true) :
    ServesExamples model contract origin shared := by
  intro counts
  have absent : origin.value.under "operationId" = .null := by
    unfold Json.under Json.held
    cases object : origin.value with
    | object entries =>
        rw [object] at silent
        cases entries with
        | nil => rfl
        | cons entry rest => exact absurd rfl silent
    | _ => rfl
  rw [absent] at counts
  cases counts

/-- The examples of a function are written onto an operation once its entries are listed. -/
theorem succeeds_functionExamples {operationId : Json} (refers : RefersInto contract)
    (known : model.functionFor? operationId = .ok (some function))
    (walkable : Walkable origin shared)
    (counterpart : Node.Counterpart model.offer contract .operation origin node)
    (shareds : Node.Counterpart model.offer contract .itemParameters shared shared') :
    Succeeds model.offer contract
      (∀ entries, entriesAt origin shared = .ok entries →
        FitsFunction contract origin entries function)
      (do
        let own ← Edit.lift do ((← node.member "parameters").orElse (.list [])).elements
        let parameters := own ++ (← Edit.lift (← Edit.refresh shared').elements)
        function.parameters.forM (symbolExamples node parameters)
        function.pathParameters.forM fun symbol =>
          parameterExamples .path symbol symbol.name parameters) := by
  obtain ⟨held, object⟩ := walkable.object
  obtain ⟨own, more, listed, walked, whole⟩ := walkable.exists_entries
  have offered {symbol : Symbol} (member : symbol ∈ function.parameters ++ function.pathParameters) :
      symbol ∈ model.symbols := SymbolModel.mem_symbols_of_functionFor? known member
  refine .given (.ask (Contract.agree_parameters counterpart)) listed fun nodes placed => ?_
  refine .given (.refresh shareds) rfl fun shared' shareds => ?_
  refine .given (.ask (shareds.elements rfl)) walked fun nodes' common => ?_
  have entries :
    List.Forall₂ (InParameterList model.offer contract) (own ++ more) (nodes ++ nodes') :=
    List.rel_append (placed.imp fun _ _ own => ⟨_, rfl, own⟩)
      (common.imp fun _ _ own => ⟨_, rfl, own⟩)
  have parameters : Succeeds model.offer contract
      (∀ symbol ∈ function.parameters, FitsParameter contract origin (own ++ more) symbol)
      (function.parameters.forM (symbolExamples node (nodes ++ nodes'))) :=
    .forM_same fun symbol member => succeeds_symbolExamples refers
      (offered (List.mem_append_left _ member)) object counterpart entries
  have pathParameters : Succeeds model.offer contract
      (∀ symbol ∈ function.pathParameters,
        FitsLocated contract .path symbol symbol.name (own ++ more))
      (function.pathParameters.forM fun symbol =>
        parameterExamples .path symbol symbol.name (nodes ++ nodes')) :=
    .forM_same fun symbol member => succeeds_parameterExamples refers
      (offered (List.mem_append_right _ member)) (by decide) entries
  refine (parameters.seq fun _ => pathParameters).iff ⟨?_, ?_⟩
  · rintro ⟨parameters, pathParameters⟩ entries listed
    cases whole.symm.trans listed
    exact ⟨parameters, pathParameters⟩
  · intro fits
    obtain ⟨parameters, pathParameters⟩ := fits _ whole
    exact ⟨parameters, pathParameters⟩

/-- The function of an operation is looked up by an identifier that counts; an operation
without a function is left alone. -/
theorem succeeds_lookup {next : Option FunctionSymbol → Edit Unit} (walkable : Walkable origin shared)
    (named : (origin.value.under "operationId").truthy = true)
    (nothing : Succeeds model.offer contract True (next none))
    (serves : ∀ function,
      model.functionFor? (origin.value.under "operationId") = .ok (some function) →
        Succeeds model.offer contract (∀ entries, entriesAt origin shared = .ok entries →
          FitsFunction contract origin entries function) (next (some function))) :
    Succeeds model.offer contract (ServesExamples model contract origin shared)
      (Edit.lift (model.functionFor? (origin.value.under "operationId")) >>= next) := by
  obtain ⟨held, object⟩ := walkable.object
  obtain ⟨function?, found⟩ := walkable.exists_function model
  have looked : functionOf model origin = model.functionFor? (origin.value.under "operationId") := by
    rw [functionOf_of_object model object, Json.orElse, if_pos named]
  refine .given (.read rfl) (looked ▸ found) fun _ same => ?_
  subst same
  cases function? with
  | none =>
      refine nothing.iff ⟨fun _ _ function _ asked => ?_, fun _ => trivial⟩
      cases found.symm.trans asked
  | some function =>
      refine (serves function (looked ▸ found)).iff ⟨?_, ?_⟩
      · intro fits _ function' entries asked
        cases found.symm.trans asked
        exact fits entries
      · exact fun serves entries => serves named function entries found

theorem succeeds_operationExamples {item item' : Node} {method : String}
    {entries : List (String × Json)} (refers : RefersInto contract) (known : method ∈ Contract.methods)
    (object : item.value = .object entries)
    (walkable : (item.value.under method).IsObject → Walkable (item.under method) shared)
    (items : Node.Counterpart model.offer contract .item item item')
    (shareds : Node.Counterpart model.offer contract .itemParameters shared shared') :
    Succeeds model.offer contract
      (((item.value.under method).truthy = true → (item.value.under method).IsObject) ∧
        ((item.value.under method).IsObject →
          ServesExamples model contract (item.under method) shared))
      (operationExamples model item' shared' method) := by
  unfold operationExamples
  refine .given (.refresh items) rfl fun item' items => ?_
  refine .given (.ask (items.member rfl)) (Node.member_of_object object) fun operation own => ?_
  rw [Contract.child_of_mem_methods known] at own
  rw [own.truthy rfl, ← Node.value_under]
  have asked : operation.value.member "operationId" =
      (item.under method).value.member "operationId" := own.value_member (by decide) (by decide)
  rw [← Node.value_under] at walkable
  generalize item.under method = origin at own asked walkable ⊢
  split
  · next silent =>
      rw [Bool.not_eq_true'] at silent
      refine Succeeds.pure.iff ⟨fun _ => ⟨fun counts => ?_, fun _ => ?_⟩, fun _ => trivial⟩
      · cases silent.symm.trans counts
      · exact servesExamples_of_not_truthy (Bool.not_eq_true _ ▸ silent)
  · next counts =>
      rw [Bool.not_eq_true', Bool.not_eq_false] at counts
      by_cases isObject : origin.value.IsObject
      · have walkable := walkable isObject
        refine Succeeds.iff (?_ : Succeeds _ _ (ServesExamples model contract origin shared) _)
          ⟨fun serves => ⟨fun _ => isObject, fun _ => serves⟩, fun both => both.2 isObject⟩
        obtain ⟨held, here⟩ := isObject
        refine .given (.read asked) (Json.member_of_object here) fun operationId same => ?_
        subst same
        cases named : (origin.value.under "operationId").truthy with
        | false =>
            refine Succeeds.pure.iff ⟨fun _ counts => ?_, fun _ => trivial⟩
            cases named.symm.trans counts
        | true => exact succeeds_lookup walkable named .pure fun function found =>
            succeeds_functionExamples refers found walkable own shareds
      -- An operation that counts is asked for its identifier, whatever it is.
      · have faults : ¬ ∃ id, origin.value.member "operationId" = .ok id :=
          fun ⟨_, read⟩ => isObject (Json.isObject_of_member read)
        exact (Succeeds.never (.read asked) faults).iff
          ⟨False.elim, fun both => isObject (both.1 counts)⟩

/-! ## Descriptions of parameters -/

theorem exists_siteOf_iff {parameter : Node} :
    (∃ listed, siteOf function parameter = .ok listed) ↔
      parameter.value.holds "$ref" = .ok true ∨ ∃ text, Named parameter text := by
  constructor
  · rintro ⟨listed, found⟩
    rcases siteOf_cases found with ⟨rfl, -⟩ | ⟨text, named, -⟩
    · obtain ⟨isReference, held, further⟩ := except_bind_eq_ok.1 found
      cases isReference with
      | true => exact .inl held
      | false =>
          obtain ⟨name, -, further⟩ := except_bind_eq_ok.1 further
          obtain ⟨text, -, same⟩ := except_bind_eq_ok.1 further
          cases except_pure_eq_ok.1 same
    · exact .inr ⟨text, named⟩
  · rintro (held | ⟨text, entries, object, placed, named⟩)
    · unfold siteOf
      rw [held]
      exact ⟨_, rfl⟩
    · have held : parameter.value.holds "$ref" = .ok false := by rw [object, Json.holds, placed]; rfl
      have called : parameter.value.member? "name" = .ok (Json.find? "name" entries) := by
        rw [object]; rfl
      unfold siteOf
      rw [held, except_ok_bind, if_neg Bool.false_ne_true, called, except_ok_bind, named]
      exact ⟨_, rfl⟩

theorem exists_collect_iff {α β : Type} {step : α → Except Fault (List β)} {xs : List α} :
    (∃ listed, collect step xs = .ok listed) ↔ ∀ x ∈ xs, ∃ own, step x = .ok own := by
  refine ⟨fun ⟨listed, found⟩ x member => ?_, exists_collect⟩
  obtain ⟨own, here, -⟩ := exists_of_collect found member
  exact ⟨own, here⟩

theorem exists_sitesOf_iff {operation : Contract.Operation}
    (walkable : Walkable operation.node operation.shared) :
    (∃ listed, sitesOf model operation = .ok listed) ↔ ServesDescriptions model operation.node := by
  obtain ⟨function?, found⟩ := walkable.exists_function model
  obtain ⟨own, -, walked, -⟩ := walkable.exists_entries
  cases function? with
  | none =>
      refine iff_of_true ⟨[], ?_⟩ fun function asked => ?_
      · unfold sitesOf
        rw [found]
        rfl
      · cases found.symm.trans asked
  | some function =>
      constructor
      · rintro ⟨listed, sites⟩ function' asked
        cases found.symm.trans asked
        rcases sitesOf_cases sites with ⟨other, -⟩ | ⟨_, _, other, legible, walked, collected⟩
        · cases found.symm.trans other
        · cases found.symm.trans other
          refine ⟨legible, fun parameters same parameter member => ?_⟩
          cases walked.symm.trans same
          exact exists_siteOf_iff.1 (exists_collect_iff.1 ⟨listed, collected⟩ parameter member)
      · intro serves
        obtain ⟨legible, named⟩ := serves function found
        rw [sitesOf_of_function found legible walked, exists_collect_iff]
        exact fun parameter member => exists_siteOf_iff.2 (named own walked parameter member)

end

end TypedContract.Enrichment
