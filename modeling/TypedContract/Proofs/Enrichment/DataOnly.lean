/-
# TypedContract.Proofs.Enrichment.DataOnly -- parameters that are no data

A parameter of a function whose type is no data is meant to stay out of the contract.  The
pass that writes examples asks for its kind and skips it, so up to there it may as well be
left out (`preparation_dataOnly`).  The pass that describes parameters does not ask: what is
documented counts for every parameter of the contract that has the canonical name, also for
one that belongs to another symbol.

So an enrichment with all parameters produces what it produces with the data alone exactly
when the others are `Withheld` (`produced_dataOnly_iff`): their names can be read, and where
the contract lacks a description, they have none to give.  Parameters of the path stand in a
list of their own and are never asked for their kind; they stay.
-/
import TypedContract.Proofs.Enrichment.Described

namespace TypedContract

set_option autoImplicit false

/-! ## Leaving out what is no data -/

namespace FunctionSymbol

/-- The function without the parameters that are no data. -/
def dataOnly (function : FunctionSymbol) : FunctionSymbol :=
  { function with parameters := function.parameters.filter fun symbol => symbol.classify != .other }

/-- The parameters that are no data. -/
def others (function : FunctionSymbol) : List Symbol :=
  function.parameters.filter fun symbol => symbol.classify == .other

end FunctionSymbol

namespace SymbolModel

/-- The symbols without the parameters that are no data. -/
def dataOnly (symbols : SymbolModel) : SymbolModel :=
  { symbols with functions := symbols.functions.map FunctionSymbol.dataOnly }

/-- The same functions are found, each without these parameters. -/
theorem functionFor?_dataOnly {symbols : SymbolModel} {operationId : Json} :
    symbols.dataOnly.functionFor? operationId =
      (Option.map FunctionSymbol.dataOnly) <$> symbols.functionFor? operationId := by
  unfold functionFor? dataOnly
  cases operationId.key with
  | error fault => rfl
  | ok key => exact congrArg Except.ok List.find?_map

end SymbolModel

namespace NamedByTexts

variable {symbols : List Symbol} {function : FunctionSymbol}

theorem mono {fewer : List Symbol} (legible : NamedByTexts symbols) (within : fewer ⊆ symbols) :
    NamedByTexts fewer := fun symbol member => legible symbol (within member)

/-- The documented parameters have readable names if those that are data do, and the others. -/
theorem iff_dataOnly : NamedByTexts (function.pathParameters ++ function.parameters) ↔
    NamedByTexts (function.dataOnly.pathParameters ++ function.dataOnly.parameters) ∧
      NamedByTexts function.others := by
  refine ⟨fun legible => ⟨legible.mono ?_, legible.mono ?_⟩, fun ⟨data, others⟩ symbol member => ?_⟩
  · exact List.append_subset.2 ⟨List.subset_append_left _ _,
      List.Subset.trans (List.filter_subset_self _) (List.subset_append_right _ _)⟩
  · exact List.Subset.trans (List.filter_subset_self _) (List.subset_append_right _ _)
  · rcases List.mem_append.1 member with placed | named
    · exact data symbol (List.mem_append_left _ placed)
    · by_cases kind : symbol.classify = .other
      · exact others symbol (List.mem_filter.2 ⟨named, beq_iff_eq.2 kind⟩)
      · exact data symbol (List.mem_append_right _ (List.mem_filter.2 ⟨named, bne_iff_ne.2 kind⟩))

end NamedByTexts

namespace Enrichment

variable {symbols : SymbolModel} {function : FunctionSymbol} {contract : Json} {d e : Draft}

/-! ## Before parameters are described -/

/-- A loop may pass over what does nothing. -/
theorem forM_filter {α : Type} {step : α → Edit PUnit} {kept : α → Bool} {xs : List α}
    (idle : ∀ x ∈ xs, ¬ kept x = true → step x = pure ⟨⟩) :
    (xs.filter kept).forM step = xs.forM step := by
  induction xs with
  | nil => rfl
  | cons x xs ih =>
      obtain ⟨first, rest⟩ := List.forall_mem_cons.1 idle
      rw [List.filter_cons]
      split
      · exact bind_congr fun _ => ih rest
      · next passed =>
          rw [ih rest]
          change _ = step x >>= fun _ => xs.forM step
          rw [first passed, pure_bind]

theorem symbolExamples_of_other {symbol : Symbol} {operation : Node} {parameters : List Node}
    (other : symbol.classify = .other) : symbolExamples operation parameters symbol = pure () := by
  unfold symbolExamples
  rw [other]

theorem symbolExamples_dataOnly {operation : Node} {parameters : List Node} :
    function.dataOnly.parameters.forM (symbolExamples operation parameters) =
      function.parameters.forM (symbolExamples operation parameters) :=
  forM_filter fun _ _ dropped => symbolExamples_of_other (by simpa using dropped)

theorem lift_map {α β γ : Type} {f : α → β} {result : Except Fault α} {next : β → Edit γ} :
    Edit.lift (f <$> result) >>= next = Edit.lift result >>= fun a => next (f a) := by
  cases result <;> rfl

theorem operationExamples_dataOnly {item shared : Node} {method : String} :
    operationExamples symbols.dataOnly item shared method =
      operationExamples symbols item shared method := by
  unfold operationExamples
  refine bind_congr fun item => bind_congr fun operation => ?_
  split
  · rfl
  · refine bind_congr fun operationId => ?_
    split
    · rfl
    · rw [SymbolModel.functionFor?_dataOnly, lift_map]
      refine bind_congr fun function? => ?_
      cases function? with
      | none => rfl
      | some function =>
          refine bind_congr fun own => bind_congr fun shared => bind_congr fun more => ?_
          exact congrArg (· >>= fun _ => function.pathParameters.forM _) symbolExamples_dataOnly

theorem examples_dataOnly : examples symbols.dataOnly = examples symbols := by
  have items (item : Node) : itemExamples symbols.dataOnly item = itemExamples symbols item := by
    unfold itemExamples
    refine bind_congr fun item => bind_congr fun shared => ?_
    exact congrArg Contract.methods.forM (funext fun _ => operationExamples_dataOnly)
  unfold examples
  simp only [items]
  rfl

/-- All examples, and the descriptions of types: what is done before parameters are
described. -/
def preparation (symbols : SymbolModel) : Edit Unit := do
  examples symbols
  let document ← Edit.root
  let schemas ← Edit.lift do (← Contract.schemas document).entries
  schemas.forM fun (key, schema) => typeDescriptions symbols key schema

/-- Parameters that are no data have no part in it. -/
theorem preparation_dataOnly : preparation symbols.dataOnly = preparation symbols := by
  unfold preparation
  rw [examples_dataOnly]
  rfl

/-! ## What an enrichment produces -/

/-- The document and the diagnostics that a step leaves, if it returns. -/
def produced (step : Edit Unit) (d : Draft) : Option (Json × List Diagnostic) :=
  match step.run d with
  | (.ok _, e) => some (e.document, e.diagnostics)
  | (.error _, _) => none

theorem produced_eq_some {step : Edit Unit} {outcome : Json × List Diagnostic} :
    produced step d = some outcome ↔
      ∃ e, Edit.Returns step d () e ∧ (e.document, e.diagnostics) = outcome := by
  unfold produced Edit.Returns
  obtain ⟨result, e⟩ := step.run d
  cases result with
  | error fault => exact ⟨nofun, fun ⟨_, returned, _⟩ => nomatch returned⟩
  | ok a =>
      refine Option.some_inj.trans ⟨fun same => ⟨e, rfl, same⟩, ?_⟩
      rintro ⟨e', returned, same⟩
      cases returned
      exact same

/-- The last line of the log counts the diagnostics. -/
def conclusion : Edit Unit := do
  let count := (← get).diagnostics.length
  Edit.note .info .driver ("enriched contract (" ++ toString count ++ " diagnostics)")

theorem returns_conclusion : Edit.Returns conclusion d () e ↔
    { d with log := d.log ++
      [⟨.info, .driver,
        "enriched contract (" ++ toString d.diagnostics.length ++ " diagnostics)"⟩] } = e := by
  unfold conclusion
  rw [Edit.returns_bind]
  constructor
  · rintro ⟨draft, _, standing, noted⟩
    obtain ⟨rfl, rfl⟩ := Edit.returns_get.1 standing
    exact Edit.returns_note.1 noted
  · intro same
    exact ⟨d, d, Edit.returns_get.2 ⟨rfl, rfl⟩, Edit.returns_note.2 same⟩

theorem enrich_eq : enrich symbols = (do
    preparation symbols
    let operations ← Edit.lift (Contract.operations (← Edit.root))
    operations.forM (operationDescriptions symbols)
    conclusion) := by
  unfold enrich descriptions preparation
  simp only [bind_assoc]
  rfl

/-- The description of the parameters follows the preparation. -/
theorem produced_enrich {outcome : Json × List Diagnostic} :
    produced (enrich symbols) d = some outcome ↔
      ∃ prepared described operations, Edit.Returns (preparation symbols) d () prepared ∧
        Contract.operations (.root 0 prepared.document) = .ok operations ∧
        Edit.Returns (operations.forM (operationDescriptions symbols)) prepared () described ∧
        (described.document, described.diagnostics) = outcome := by
  rw [produced_eq_some, enrich_eq]
  constructor
  · rintro ⟨e, returned, same⟩
    obtain ⟨_, prepared, first, returned⟩ := Edit.returns_bind.1 returned
    obtain ⟨root, _, standing, returned⟩ := Edit.returns_bind.1 returned
    obtain ⟨rfl, rfl⟩ := Edit.returns_root.1 standing
    obtain ⟨operations, _, asked, returned⟩ := Edit.returns_bind.1 returned
    obtain ⟨listed, rfl⟩ := Edit.returns_lift.1 asked
    obtain ⟨_, described, second, concluded⟩ := Edit.returns_bind.1 returned
    obtain rfl := returns_conclusion.1 concluded
    exact ⟨prepared, described, operations, first, listed, second, same⟩
  · rintro ⟨prepared, described, operations, first, listed, second, same⟩
    obtain ⟨e, concluded⟩ : ∃ e, Edit.Returns conclusion described () e := ⟨_, returns_conclusion.2 rfl⟩
    have kept := returns_conclusion.1 concluded
    refine ⟨e, Edit.returns_bind.2 ⟨(), prepared, first, ?_⟩, kept ▸ same⟩
    refine Edit.returns_bind.2 ⟨_, prepared, Edit.returns_root.2 ⟨rfl, rfl⟩, ?_⟩
    refine Edit.returns_bind.2 ⟨operations, prepared, Edit.returns_lift.2 ⟨listed, rfl⟩, ?_⟩
    exact Edit.returns_bind.2 ⟨(), described, second, concluded⟩

/-- What is produced is the prepared contract with its sites described. -/
theorem produced_enrich_iff {outcome : Json × List Diagnostic} :
    produced (enrich symbols) d = some outcome ↔
      ∃ prepared operations listed, Edit.Returns (preparation symbols) d () prepared ∧
        Contract.operations (.root 0 prepared.document) = .ok operations ∧
        allSites symbols operations = .ok listed ∧
        (Contract.carryOut (listed.flatMap Site.effects) prepared.document,
          prepared.diagnostics) = outcome := by
  rw [produced_enrich]
  constructor
  · rintro ⟨prepared, described, operations, first, operated, second, same⟩
    have pass : Describes symbols.offer prepared.document
        (operations.forM (operationDescriptions symbols)) (allSites symbols operations) :=
      describes_operations operated
    have describes := pass prepared (.refl _ _)
    obtain ⟨listed, found⟩ := describes.2 described second
    obtain ⟨-, e, again, made⟩ := describes.1 listed found
    obtain ⟨-, rfl⟩ := second.unique again
    refine ⟨prepared, operations, listed, first, operated, found, ?_⟩
    rw [← same, made.document, made.diagnostics, List.append_nil]
  · rintro ⟨prepared, operations, listed, first, operated, found, same⟩
    have pass : Describes symbols.offer prepared.document
        (operations.forM (operationDescriptions symbols)) (allSites symbols operations) :=
      describes_operations operated
    have describes := pass prepared (.refl _ _)
    obtain ⟨-, described, second, made⟩ := describes.1 listed found
    refine ⟨prepared, described, operations, first, operated, second, ?_⟩
    rw [← same, made.document, made.diagnostics, List.append_nil]

/-! ## With all parameters and with the data alone -/

theorem functionOf_dataOnly {operation : Node} :
    functionOf symbols.dataOnly operation =
      (Option.map FunctionSymbol.dataOnly) <$> functionOf symbols operation := by
  unfold functionOf
  cases operation.value.member "operationId" with
  | error fault => rfl
  | ok operationId => exact SymbolModel.functionFor?_dataOnly

/-- The parameter has a description that counts. -/
def HasDescription (parameter : Node) : Prop :=
  ∃ entries, parameter.value = .object entries ∧
    ((Json.find? "description" entries).getD .null).truthy = true

/-- What the parameters that are no data have to say of a contract is not asked for: their
names can be read, and a parameter that lacks a description is told the same without them. -/
def Withheld (symbols : SymbolModel) (document : Json) : Prop :=
  ∀ operations, Contract.operations (.root 0 document) = .ok operations →
    ∀ operation ∈ operations, ∀ function, functionOf symbols operation.node = .ok (some function) →
      NamedByTexts function.others ∧
        ∀ parameters, ownParameters operation.node = .ok parameters → ∀ parameter ∈ parameters,
          ∀ text, Named parameter text → ¬ HasDescription parameter →
            function.documentation? (Name.display text) =
              function.dataOnly.documentation? (Name.display text)

/-! ## Their sites -/

section

variable {parameter : Node} {listed : List Site} {operation : Contract.Operation}
  {operations : List Contract.Operation}

/-- The sites are the same when another function is asked. -/
theorem siteOf_via (choose : FunctionSymbol → FunctionSymbol)
    (found : siteOf function parameter = .ok listed) :
    siteOf (choose function) parameter = .ok (listed.map (Site.via choose)) := by
  obtain ⟨isReference, held, further⟩ := except_bind_eq_ok.1 found
  unfold siteOf
  rw [held, except_ok_bind]
  split at further
  · next refers =>
      obtain rfl := except_pure_eq_ok.1 further
      exact if_pos refers
  · next placed =>
      obtain ⟨name, named, further⟩ := except_bind_eq_ok.1 further
      obtain ⟨text, read, same⟩ := except_bind_eq_ok.1 further
      obtain rfl := except_pure_eq_ok.1 same
      rw [if_neg placed, named, except_ok_bind]
      dsimp only
      rw [read]
      rfl

theorem functionOf_dataOnly_of_some {node : Node}
    (asked : functionOf symbols node = .ok (some function)) :
    functionOf symbols.dataOnly node = .ok (some function.dataOnly) := by
  rw [functionOf_dataOnly, asked]
  rfl

theorem sitesOf_dataOnly (found : sitesOf symbols operation = .ok listed) :
    sitesOf symbols.dataOnly operation = .ok (listed.map (Site.via .dataOnly)) := by
  rcases sitesOf_cases found with ⟨asked, rfl⟩ | ⟨function, parameters, asked, legible, own, collected⟩
  · unfold sitesOf
    rw [functionOf_dataOnly, asked]
    rfl
  · rw [sitesOf_of_function (functionOf_dataOnly_of_some asked)
      (NamedByTexts.iff_dataOnly.1 legible).1 own]
    exact collect_map (fun _ _ _ => siteOf_via .dataOnly) collected

theorem allSites_dataOnly (found : allSites symbols operations = .ok listed) :
    allSites symbols.dataOnly operations = .ok (listed.map (Site.via .dataOnly)) :=
  collect_map (fun _ _ _ => sitesOf_dataOnly) found

/-- Sites that can be listed for the data can be listed for all parameters if the names of
the others can be read. -/
theorem exists_sitesOf (found : sitesOf symbols.dataOnly operation = .ok listed)
    (legible : ∀ function, functionOf symbols operation.node = .ok (some function) →
      NamedByTexts function.others) : ∃ all, sitesOf symbols operation = .ok all := by
  cases asked : functionOf symbols operation.node with
  | error fault =>
      unfold sitesOf at found
      rw [functionOf_dataOnly, asked] at found
      cases found
  | ok function? =>
      cases function? with
      | none => exact ⟨[], by unfold sitesOf; rw [asked]; rfl⟩
      | some function =>
          rcases sitesOf_cases found with
            ⟨missing, -⟩ | ⟨function', parameters, known, data, own, collected⟩
          · cases missing.symm.trans (functionOf_dataOnly_of_some asked)
          · cases known.symm.trans (functionOf_dataOnly_of_some asked)
            have all : NamedByTexts (function.pathParameters ++ function.parameters) :=
              NamedByTexts.iff_dataOnly.2 ⟨data, legible function asked⟩
            rw [sitesOf_of_function asked all own]
            exact ⟨_, collect_map (fun _ _ _ => siteOf_via fun _ => function) collected⟩

/-- Nothing of the others is asked for exactly when every site that lacks a description is
told the same without them. -/
theorem withheld_iff (operated : Contract.operations (.root 0 contract) = .ok operations)
    (found : allSites symbols operations = .ok listed) :
    Withheld symbols contract ↔
      ∀ site ∈ listed, ∀ entries, site.parameter.value = .object entries →
        ((Json.find? "description" entries).getD .null).truthy = false →
          site.function.documentation? site.name = site.function.dataOnly.documentation? site.name := by
  constructor
  · intro withheld site member entries object lacking
    obtain ⟨operation, known, sites, here, within⟩ := mem_collect found member
    obtain ⟨asked, ⟨parameters, own, inside⟩, text, named, display⟩ := mem_sitesOf here within
    obtain ⟨-, told⟩ := withheld operations operated operation known site.function asked
    rw [display]
    refine told parameters own site.parameter inside text named ?_
    rintro ⟨entries', object', counts⟩
    rw [object] at object'
    cases object'
    exact Bool.false_ne_true (lacking.symm.trans counts)
  · intro told operations' operated' operation known function asked
    obtain rfl : operations = operations' := Except.ok.inj (operated.symm.trans operated')
    obtain ⟨sites, here, within⟩ := exists_of_collect found known
    rcases sitesOf_cases here with
      ⟨missing, -⟩ | ⟨function', parameters', asked', legible, own', collected⟩
    · cases missing.symm.trans asked
    · cases asked'.symm.trans asked
      refine ⟨(NamedByTexts.iff_dataOnly.1 legible).2, ?_⟩
      intro parameters own parameter member text named lacking
      obtain rfl : parameters' = parameters := Except.ok.inj (own'.symm.trans own)
      obtain ⟨single, listed', inner⟩ := exists_of_collect collected member
      rcases siteOf_cases listed' with ⟨-, nameless⟩ | ⟨text', named', rfl⟩
      · exact absurd named (nameless text)
      · obtain rfl := named.unique named'
        obtain ⟨entries, object, -⟩ := named
        have site := within (inner List.mem_cons_self)
        have counts : ((Json.find? "description" entries).getD .null).truthy = false :=
          Bool.eq_false_iff.2 fun counts => lacking ⟨entries, object, counts⟩
        exact told ⟨function, parameter, Name.display text⟩ site entries object counts

/-! ## The two enrichments -/

/-- What the data alone produces, when the sites of all parameters are listed. -/
theorem produced_dataOnly {prepared : Draft} (first : Edit.Returns (preparation symbols) d () prepared)
    (operated : Contract.operations (.root 0 prepared.document) = .ok operations)
    (found : allSites symbols operations = .ok listed) :
    produced (enrich symbols.dataOnly) d =
      some (Contract.carryOut ((listed.map (Site.via .dataOnly)).flatMap Site.effects)
        prepared.document, prepared.diagnostics) := by
  rw [← preparation_dataOnly] at first
  exact produced_enrich_iff.2 ⟨prepared, operations, _, first, operated, allSites_dataOnly found, rfl⟩

/-- Once the sites are listed, the two enrichments agree exactly when the others are withheld. -/
theorem produced_eq_iff {prepared : Draft} (first : Edit.Returns (preparation symbols) d () prepared)
    (operated : Contract.operations (.root 0 prepared.document) = .ok operations)
    (found : allSites symbols operations = .ok listed) :
    produced (enrich symbols) d = produced (enrich symbols.dataOnly) d ↔
      Withheld symbols prepared.document := by
  have all : produced (enrich symbols) d =
      some (Contract.carryOut (listed.flatMap Site.effects) prepared.document, prepared.diagnostics) :=
    produced_enrich_iff.2 ⟨prepared, operations, listed, first, operated, found, rfl⟩
  rw [all, produced_dataOnly first operated found, withheld_iff operated found,
    Option.some_inj, Prod.mk.injEq, and_iff_left rfl]
  exact Site.carryOut_via_iff (allSites_apart operated found) fun site member =>
    stands_of_mem_allSites operated found member

/-- An enrichment produces the same without the parameters that are no data, exactly when
what they have to say is not asked for.  Where the data alone cannot be written, nothing is
produced either way. -/
theorem produced_dataOnly_iff :
    produced (enrich symbols) d = produced (enrich symbols.dataOnly) d ↔
      ∀ prepared after, Edit.Returns (preparation symbols) d () prepared →
        Edit.Returns (enrich symbols.dataOnly) d () after → Withheld symbols prepared.document := by
  constructor
  · intro same prepared after first returned
    have written := same.trans (produced_eq_some.2 ⟨after, returned, rfl⟩)
    obtain ⟨prepared', operations, listed, first', operated, found, -⟩ := produced_enrich_iff.1 written
    obtain ⟨-, rfl⟩ := first.unique first'
    exact (produced_eq_iff first operated found).1 same
  · intro withheld
    cases data : produced (enrich symbols.dataOnly) d with
    | none =>
        refine Option.eq_none_iff_forall_ne_some.2 fun outcome all => ?_
        obtain ⟨prepared, operations, listed, first, operated, found, -⟩ := produced_enrich_iff.1 all
        exact nomatch data.symm.trans (produced_dataOnly first operated found)
    | some outcome =>
        obtain ⟨after, returned, -⟩ := produced_eq_some.1 data
        obtain ⟨prepared, operations, fewer, first, operated, found, -⟩ := produced_enrich_iff.1 data
        rw [preparation_dataOnly] at first
        have kept := withheld prepared after first returned
        obtain ⟨listed, all⟩ : ∃ listed, allSites symbols operations = .ok listed := by
          refine exists_collect fun operation member => ?_
          obtain ⟨sites, here, -⟩ := exists_of_collect found member
          exact exists_sitesOf here fun function asked =>
            (kept operations operated operation member function asked).1
        rw [← data]
        exact (produced_eq_iff first operated all).2 kept

end

/-! ## A session that is told -/

/-- Pets are listed within a session that the contract takes as a parameter. -/
def petSession : Json := .object [("paths", .object [("/pets", .object [("get", .object [
  ("operationId", .str "listPets"),
  ("parameters", .list [.object [("name", .str "session"), ("in", .str "query")]])])])])]

/-- A session of no declared type, with documentation. -/
def databaseSession : SymbolModel where
  functions := [{
    operationId := .str "listPets"
    parameters := [.mk
      { name := .str "session", kind := .parameter,
        documentation := .str "The database session" } []] }]

/-- The pets with what the symbol says of its own session. -/
def toldSession : Json := .object [("paths", .object [("/pets", .object [("get", .object [
  ("operationId", .str "listPets"),
  ("parameters", .list [.object [("name", .str "session"), ("in", .str "query"),
    ("description", .str "The database session")]])])])])]

/-- The contract is told of a session that is no data. -/
theorem produced_databaseSession :
    produced (enrich databaseSession) { document := petSession } = some (toldSession, []) ∧
      produced (enrich databaseSession.dataOnly) { document := petSession } = some (petSession, []) ∧
      produced (enrich databaseSession) { document := petSession } ≠
        produced (enrich databaseSession.dataOnly) { document := petSession } := by
  have told : produced (enrich databaseSession) { document := petSession } =
      some (toldSession, []) := rfl
  have silent : produced (enrich databaseSession.dataOnly) { document := petSession } =
      some (petSession, []) := rfl
  refine ⟨told, silent, fun same => ?_⟩
  have equal := told.symm.trans (same.trans silent)
  simp [toldSession, petSession] at equal

end Enrichment

end TypedContract
