/-
# TypedContract.Proofs.Enrichment.Steps -- enrichment reads nothing that it writes

Every step of an enrichment is parallel to itself: which symbol is matched with which part
of the contract, what is written there and what is reported only depends on the contract
before, never on the examples and descriptions that stand in it by now.  There is one
lemma for each step, in the order of the enrichment, and one for the whole
(`parallel_enrich`).

The one thing asked of the contract is that the references of its parameters and request
bodies lead to components of their kind.  A reference into a schema could lead to an
example.
-/
import TypedContract.Proofs.Enrichment.Parallel

namespace TypedContract

set_option autoImplicit false

open Contract (Part Shared)

theorem mem_of_lookup {β : Type} {name : String} {value : β} {entries : List (String × β)}
    (found : entries.lookup name = some value) : (name, value) ∈ entries := by
  obtain ⟨front, back, rfl, -⟩ := List.lookup_eq_some_iff.1 found
  exact List.mem_append_right _ List.mem_cons_self

/-- The kind of component that a part may refer to and that enrichment looks up. -/
def Contract.Part.lookedUp : Part → Option Shared
  | itemParameter => some .parameter
  | use .parameter => some .parameter
  | use .body => some .body
  | _ => none

/-! ## What the symbols of a source offer -/

/-- The symbols that stand for parts of a contract: types, their fields and the
parameters of functions. -/
def SymbolModel.symbols (model : SymbolModel) : List Symbol :=
  (model.types.flatMap fun entry => entry.2 :: entry.2.fields.map (·.2))
    ++ model.functions.flatMap fun function => function.parameters ++ function.pathParameters

/-- The annotated examples and the documentation of the symbols. -/
def SymbolModel.offer (model : SymbolModel) : Offer where
  examples which value := ∃ symbol ∈ model.symbols,
    Example.annotated? symbol.annotations which = .ok (some value)
  descriptions text := text.truthy = true ∧ ∃ symbol ∈ model.symbols,
    symbol.facts.documentation = text
  truthy _ offered := offered.1

namespace SymbolModel

variable {model : SymbolModel} {symbol : Symbol}

theorem mem_types_of_typeNamed? {name : Json}
    (found : model.typeNamed? name = .ok (some symbol)) : ∃ key, (key, symbol) ∈ model.types := by
  unfold typeNamed? at found
  obtain ⟨key, -, found⟩ := except_bind_eq_ok.1 found
  split at found
  · exact ⟨_, mem_of_lookup (except_pure_eq_ok.1 found)⟩
  · cases except_pure_eq_ok.1 found

theorem mem_symbols_of_typeNamed? {name : Json}
    (found : model.typeNamed? name = .ok (some symbol)) : symbol ∈ model.symbols := by
  obtain ⟨key, member⟩ := mem_types_of_typeNamed? found
  exact List.mem_append_left _ (List.mem_flatMap.2 ⟨_, member, List.mem_cons_self⟩)

theorem mem_symbols_of_field {name : Json} {field : String × Symbol}
    (found : model.typeNamed? name = .ok (some symbol)) (member : field ∈ symbol.fields) :
    field.2 ∈ model.symbols := by
  obtain ⟨key, known⟩ := mem_types_of_typeNamed? found
  exact List.mem_append_left _ (List.mem_flatMap.2
    ⟨_, known, List.mem_cons_of_mem _ (List.mem_map.2 ⟨field, member, rfl⟩)⟩)

theorem mem_symbols_of_functionFor? {operationId : Json} {function : FunctionSymbol}
    (found : model.functionFor? operationId = .ok (some function))
    (member : symbol ∈ function.parameters ++ function.pathParameters) :
    symbol ∈ model.symbols := by
  unfold functionFor? at found
  obtain ⟨key, -, found⟩ := except_bind_eq_ok.1 found
  have known := List.mem_of_find?_eq_some (except_pure_eq_ok.1 found)
  exact List.mem_append_right _ (List.mem_flatMap.2 ⟨function, known, member⟩)

end SymbolModel

namespace Enrichment

open Edit (Parallel)
open SymbolModel (mem_symbols_of_typeNamed? mem_symbols_of_field mem_symbols_of_functionFor?)

variable {model : SymbolModel} {contract : Json}

/-! ## Examples onto targets -/

/-- The nodes are counterparts of one node, which takes examples if it is an object. -/
def Illustrated (model : SymbolModel) (contract : Json) (node node' : Node) : Prop :=
  ∃ part origin, Node.Counterpart model.offer contract part origin node ∧
    Node.Counterpart model.offer contract part origin node' ∧
    ∀ entries, origin.value = .object entries → Offer.TakesExamples part entries

theorem illustrated_of_twins {part : Part} {node node' : Node}
    (twins : Twins model.offer contract part node node') (takes : part.takesExamples = true)
    (located : part.isParameter = false) : Illustrated model contract node node' := by
  obtain ⟨origin, first, second⟩ := twins
  refine ⟨part, origin, first, second, fun entries _ => ⟨takes, fun parameter => ?_⟩⟩
  cases located.symm.trans parameter

/-- The two request bodies, in place or shared. -/
def Bodies (model : SymbolModel) (contract : Json) (body body' : Node) : Prop :=
  ∃ part, (part = .use .body ∨ part = .entry .body) ∧ Twins model.offer contract part body body'

/-- Two targets that stand for the same part. -/
inductive Targets (model : SymbolModel) (contract : Json) : ExampleTarget → ExampleTarget → Prop where
  | node {word : String} {node node' : Node} (illustrated : Illustrated model contract node node') :
      Targets model contract (.node word node) (.node word node')
  | request {body? body?' : Option Node}
      (bodies : Option.Rel (Bodies model contract) body? body?') :
      Targets model contract (.request body?) (.request body?')

/-- Two mappers of one symbol. -/
structure Mappers (model : SymbolModel) (contract : Json) (mapper mapper' : ExampleMapper) : Prop where
  target : Targets model contract mapper.target mapper'.target
  name : mapper'.name = mapper.name
  annotations : mapper'.annotations = mapper.annotations
  location : mapper'.location = mapper.location
  offered : ∀ which value, Example.annotated? mapper.annotations which = .ok (some value) →
    model.offer.examples which value

namespace Mappers

variable {mapper mapper' : ExampleMapper}

theorem ofSymbol {symbol : Symbol} (member : symbol ∈ model.symbols)
    {target target' : ExampleTarget} (targets : Targets model contract target target') :
    Mappers model contract (.ofSymbol symbol target) (.ofSymbol symbol target') :=
  ⟨targets, rfl, rfl, rfl, fun _ _ found => ⟨symbol, member, found⟩⟩

theorem start (mappers : Mappers model contract mapper mapper') :
    Parallel model.offer contract Eq mapper.start mapper'.start := by
  unfold ExampleMapper.start ExampleMapper.isDisabled
  rw [mappers.annotations, mappers.name, mappers.location]
  split
  · exact .report
  · exact .pure rfl

theorem mediaTypes (mappers : Mappers model contract mapper mapper') {body body' : Node}
    (bodies : Bodies model contract body body') :
    Parallel model.offer contract (List.Forall₂ (Illustrated model contract))
      (mapper.mediaTypes body) (mapper'.mediaTypes body') := by
  obtain ⟨part, kind, twins⟩ := bodies
  have plain : part.plain = true := by rcases kind with rfl | rfl <;> rfl
  have content : part.child "content" = .content := by rcases kind with rfl | rfl <;> rfl
  unfold ExampleMapper.mediaTypes
  refine (Parallel.refresh twins).bind fun body body' ⟨origin, first, second⟩ => ?_
  refine (Parallel.ask ((first.orElse plain rfl).member (Part.writes_of_plain plain _))
    ((second.orElse plain rfl).member (Part.writes_of_plain plain _))).bind
      fun found found' ⟨held, own, own'⟩ => ?_
  rw [content] at own own'
  rw [own.isNull, own'.isNull]
  split
  · exact .pure .nil
  · refine (Parallel.lift_same (by rw [own.value_size rfl, own'.value_size rfl])).bind
      fun size _ ⟨rfl, _⟩ => ?_
    split
    · rw [mappers.name, mappers.location]
      exact Parallel.report.bind fun _ _ _ => .pure .nil
    · refine (Parallel.ask (own.entries rfl) (own'.entries rfl)).bind fun entries entries' both => ?_
      refine .pure ?_
      rw [List.forall₂_map_left_iff, List.forall₂_map_right_iff]
      refine both.forall₂.imp fun entry entry' related => ?_
      obtain ⟨media, ⟨-, one⟩, -, other⟩ := related
      exact illustrated_of_twins ⟨_, one, other⟩ rfl rfl

theorem write (mappers : Mappers model contract mapper mapper') {which : Example.Which}
    {value : Json} (offered : model.offer.examples which value) :
    Parallel model.offer contract Eq (mapper.write which value) (mapper'.write which value) := by
  have assigned {node node' : Node} (illustrated : Illustrated model contract node node') :
      Parallel model.offer contract Eq (Edit.assign node which.key value)
        (Edit.assign node' which.key value) := by
    obtain ⟨part, origin, first, second, takes⟩ := illustrated
    exact .assign first second takes offered
  unfold ExampleMapper.write
  have targets := mappers.target
  generalize mapper.target = target, mapper'.target = target' at targets
  cases targets with
  | node illustrated => exact assigned illustrated
  | request bodies =>
      cases bodies with
      | none => exact .pure rfl
      | some bodies =>
          exact (mappers.mediaTypes bodies).bind fun medias medias' related =>
            .forM related fun _ _ => assigned

theorem word (mappers : Mappers model contract mapper mapper') :
    mapper'.target.word = mapper.target.word := by
  have targets := mappers.target
  generalize mapper.target = target, mapper'.target = target' at targets
  cases targets <;> rfl

theorem set (mappers : Mappers model contract mapper mapper') (which : Example.Which) :
    Parallel model.offer contract Eq (mapper.set which) (mapper'.set which) := by
  unfold ExampleMapper.set ExampleMapper.isDisabled
  rw [mappers.annotations, mappers.word, mappers.name, mappers.location]
  split
  · exact .pure rfl
  · split
    · exact .pure rfl
    · rename_i value found
      exact mappers.write (mappers.offered which value found)
    · exact .report
    · exact .throw

theorem apply (mappers : Mappers model contract mapper mapper') :
    Parallel model.offer contract Eq mapper.apply mapper'.apply :=
  (mappers.set .example).bind fun _ _ _ => mappers.set .examples

theorem run (mappers : Mappers model contract mapper mapper') :
    Parallel model.offer contract Eq mapper.run mapper'.run :=
  mappers.start.bind fun _ _ _ => mappers.apply

end Mappers

/-! ## Types -/

theorem sourceName_eq {origin node : Node} {key : String}
    (counterpart : Node.Counterpart model.offer contract .schema origin node) :
    sourceName key node = sourceName key origin := by
  unfold sourceName
  rw [counterpart.value_member? (by decide) (by decide)]

theorem parallel_fieldMappers {typeName : Json} {properties properties' : Node}
    {fields : List (String × Symbol)} (members : ∀ field ∈ fields, field.2 ∈ model.symbols)
    (twins : Twins model.offer contract .properties properties properties') :
    Parallel model.offer contract (List.Forall₂ (Mappers model contract))
      (fieldMappers typeName properties fields) (fieldMappers typeName properties' fields) := by
  induction fields with
  | nil => exact .pure .nil
  | cons entry rest ih =>
      obtain ⟨field, symbol⟩ := entry
      obtain ⟨member, others⟩ := List.forall_mem_cons.1 members
      have ⟨origin, first, second⟩ := twins
      unfold fieldMappers
      refine (Parallel.ask (first.member rfl) (second.member rfl)).bind
        fun property property' ⟨held, own, own'⟩ => ?_
      simp only
      rw [own.isNull, own'.isNull]
      split
      · exact Parallel.note.bind fun _ _ _ => ih others
      · have mappers : Mappers model contract
            ⟨.node "field" property, .str (typeName.plain ++ "." ++ field), symbol.annotations,
              symbol.facts.location⟩
            ⟨.node "field" property', .str (typeName.plain ++ "." ++ field), symbol.annotations,
              symbol.facts.location⟩ :=
          ⟨.node (illustrated_of_twins ⟨held, own, own'⟩ rfl rfl), rfl, rfl, rfl,
            fun _ _ found => ⟨symbol, member, found⟩⟩
        exact mappers.start.bind fun _ _ _ =>
          (ih others).bind fun _ _ more => .pure (.cons mappers more)

theorem parallel_typeExamples {key : String} {schema schema' : Node}
    (twins : Twins model.offer contract .schema schema schema') :
    Parallel model.offer contract Eq (typeExamples model key schema)
      (typeExamples model key schema') := by
  unfold typeExamples
  refine (Parallel.refresh twins).bind fun schema schema' twins => ?_
  have ⟨origin, first, second⟩ := twins
  refine (Parallel.lift_same (by rw [sourceName_eq first, sourceName_eq second])).bind
    fun typeName _ ⟨rfl, _⟩ => ?_
  refine (Parallel.lift_same rfl).bind fun found _ ⟨rfl, answered⟩ => ?_
  cases found with
  | none => exact .pure rfl
  | some symbol =>
      have member : symbol ∈ model.symbols := mem_symbols_of_typeNamed? answered
      have fields : ∀ field ∈ symbol.fields, field.2 ∈ model.symbols :=
        fun field => mem_symbols_of_field answered
      refine (Mappers.ofSymbol member (.node (illustrated_of_twins twins rfl rfl))).run.bind
        fun _ _ _ => ?_
      refine (Parallel.refresh twins).bind fun schema schema' ⟨origin, first, second⟩ => ?_
      refine (Parallel.lift_same (by rw [first.holds rfl, second.holds rfl])).bind
        fun holds _ ⟨rfl, _⟩ => ?_
      split
      · refine (Parallel.ask (first.member rfl) (second.member rfl)).bind
          fun properties properties' ⟨held, own, own'⟩ => ?_
        refine (parallel_fieldMappers fields ⟨_, own.orElse rfl rfl, own'.orElse rfl rfl⟩).bind
          fun mappers mappers' related => .forM related fun _ _ => Mappers.apply
      · exact .pure rfl

/-! ## Parameters -/

/-- The references of a contract that enrichment follows lead to components. -/
abbrev RefersInto (contract : Json) : Prop := contract.refersInto Part.lookedUp = true

theorem quiet_of_lookedUp {part : Part} {kind : Shared} (looked : part.lookedUp = some kind) :
    (part.child "$ref").quiet = true := by
  unfold Part.lookedUp at looked
  split at looked
  all_goals first | rfl | cases looked

/-- A reference leads to counterparts, or nowhere on both sides. -/
theorem parallel_resolve? {part : Part} {kind : Shared} {node node' : Node}
    (refers : RefersInto contract) (looked : part.lookedUp = some kind)
    (twins : Twins model.offer contract part node node') :
    Parallel model.offer contract (Option.Rel (Twins model.offer contract (.entry kind)))
      (resolve? node) (resolve? node') := by
  obtain ⟨origin, first, second⟩ := twins
  have unwritten : part.writes "$ref" = false :=
    part.writes_of_not_mem (by decide)
  have quiet := quiet_of_lookedUp looked
  unfold resolve?
  rw [first.value_required unwritten quiet, second.value_required unwritten quiet]
  refine (Parallel.lift_same rfl).bind fun ref _ ⟨rfl, held⟩ => ?_
  refine Parallel.root.bind fun root root' ⟨before, top, top'⟩ => ?_
  -- both documents are compared with the contract that they come from, not with each other
  have resolved (ref : Json) (refersTo : ∀ text, ref = .str text → Pointer.refersTo kind text = true) :
      Agree (Node.Counterpart model.offer contract (.entry kind)) (Pointer.resolve before ref)
          (Pointer.resolve root ref) ∧
        Agree (Node.Counterpart model.offer contract (.entry kind)) (Pointer.resolve before ref)
          (Pointer.resolve root' ref) := by
    cases ref with
    | str text => exact ⟨top.resolve (refersTo text rfl), top'.resolve (refersTo text rfl)⟩
    | _ => exact ⟨.error, .error⟩
  obtain ⟨one, other⟩ := resolved ref fun text same =>
    first.refersTo refers looked (same ▸ held)
  generalize Pointer.resolve before ref = target, Pointer.resolve root ref = found,
    Pointer.resolve root' ref = found' at one other
  cases one with
  | ok own =>
      cases other with
      | ok own' =>
          refine .pure ?_
          rw [own.isNull, own'.isNull]
          split
          · exact .none
          · exact .some ⟨_, own, own'⟩
  | @error fault =>
      cases other with
      | error =>
          cases fault with
          | missingKey key => exact .pure .none
          | _ => exact .throw

/-- The nodes are parameters where they are listed, in place or as references. -/
def ListedTwins (model : SymbolModel) (contract : Json) (node node' : Node) : Prop :=
  ∃ part, part.lookedUp = some .parameter ∧ Twins model.offer contract part node node'

/-- The nodes are the parameter of a location that was found. -/
def Found (model : SymbolModel) (contract : Json) (location : String) (node node' : Node) : Prop :=
  ∃ part origin, part.isParameter = true ∧
    Node.Counterpart model.offer contract part origin node ∧
    Node.Counterpart model.offer contract part origin node' ∧
    origin.value.member "in" = .ok (.str location)

theorem isParameter_of_lookedUp {part : Part} (looked : part.lookedUp = some .parameter) :
    part.isParameter = true := by
  unfold Part.lookedUp at looked
  split at looked
  all_goals first | rfl | cases looked

theorem parallel_findParameter? {location wanted : String} {nodes nodes' : List Node}
    (refers : RefersInto contract)
    (listed : List.Forall₂ (ListedTwins model contract) nodes nodes') :
    Parallel model.offer contract (Option.Rel (Found model contract location))
      (findParameter? location wanted nodes) (findParameter? location wanted nodes') := by
  induction listed with
  | nil => exact .pure .none
  | cons head tail ih =>
      obtain ⟨part, looked, twins⟩ := head
      have parameter := isParameter_of_lookedUp looked
      unfold findParameter?
      refine (Parallel.refresh twins).bind fun raw raw' twins => ?_
      have ⟨origin, first, second⟩ := twins
      have unwritten : part.writes "$ref" = false :=
        part.writes_of_not_mem (by decide)
      refine (Parallel.lift_same (by rw [first.holds unwritten, second.holds unwritten])).bind
        fun isReference _ ⟨rfl, _⟩ => ?_
      -- a reference is followed, anything else is looked at where it stands
      refine Parallel.branch (Option.Rel fun node node' => ∃ part, part.isParameter = true ∧
          Twins model.offer contract part node node')
        (fun _ => (parallel_resolve? refers looked twins).mono fun target target' related => ?_)
        (fun _ => .pure (.some ⟨part, parameter, twins⟩)) fun parameter? parameter?' found => ?_
      · cases related with
        | none => exact .none
        | some own => exact .some ⟨_, rfl, own⟩
      · cases found with
        | none => exact ih
        | @some node node' own =>
            obtain ⟨part, parameter, origin, first, second⟩ := own
            have place := part.writes_of_not_mem (show "in" ∉ Part.written by decide)
            have name := part.writes_of_not_mem (show "name" ∉ Part.written by decide)
            have quiet := Part.quiet_of_isParameter parameter
            simp only
            rw [first.value_member place (quiet _), second.value_member place (quiet _),
              first.value_member? name (quiet _), second.value_member? name (quiet _)]
            refine (Parallel.lift_same rfl).bind fun here _ ⟨rfl, stands⟩ => ?_
            split
            · exact ih
            · rename_i located
              rw [Bool.not_eq_true', Bool.not_eq_false] at located
              refine (Parallel.lift_same rfl).bind fun named _ ⟨rfl, _⟩ => ?_
              refine (Parallel.lift_same rfl).bind fun text _ ⟨rfl, _⟩ => ?_
              split
              · exact .pure (.some ⟨part, origin, parameter, first, second,
                  by rw [stands, Json.same_text_iff.1 located]⟩)
              · exact ih

theorem parallel_parameterExamples {kind : ParameterKind} {symbol : Symbol} {name : Json}
    {nodes nodes' : List Node} (refers : RefersInto contract) (member : symbol ∈ model.symbols)
    (located : kind ∈ [ParameterKind.path, .query, .header])
    (listed : List.Forall₂ (ListedTwins model contract) nodes nodes') :
    Parallel model.offer contract Eq (parameterExamples kind symbol name nodes)
      (parameterExamples kind symbol name nodes') := by
  unfold parameterExamples parameterOf?
  refine ((Parallel.lift_same rfl).bind fun text _ ⟨rfl, _⟩ =>
    parallel_findParameter? refers listed).bind fun target target' found => ?_
  cases found with
  | none => exact .pure rfl
  | some own =>
      obtain ⟨part, origin, parameter, first, second, place⟩ := own
      refine (Mappers.ofSymbol member (.node ⟨part, origin, first, second, fun entries object => ?_⟩)).run
      refine ⟨?_, fun _ => List.any_eq_true.2 ⟨kind, located, ?_⟩⟩
      · unfold Part.takesExamples
        split
        all_goals first | rfl | exact parameter
      · rw [object] at place
        have found : Json.find? "in" entries = some (.str kind.word) := by
          have held := except_pure_eq_ok.1 place
          cases found : Json.find? "in" entries with
          | none => rw [found] at held; cases held
          | some value => rw [found] at held; rw [← held]; rfl
        rw [found]
        exact beq_self_eq_true _

/-! ## Functions -/

theorem parallel_payloadExamples {symbol : Symbol} {operation operation' : Node}
    (refers : RefersInto contract) (member : symbol ∈ model.symbols)
    (twins : Twins model.offer contract .operation operation operation') :
    Parallel model.offer contract Eq (payloadExamples symbol operation)
      (payloadExamples symbol operation') := by
  unfold payloadExamples
  refine (Parallel.refresh twins).bind fun operation operation' ⟨origin, first, second⟩ => ?_
  refine (Parallel.ask (first.member (by decide)) (second.member (by decide))).bind
    fun body body' ⟨held, own, own'⟩ => ?_
  have inPlace : Part.operation.child "requestBody" = .use .body := rfl
  rw [inPlace] at own own'
  rw [own.isNull, own'.isNull]
  split
  · exact .pure rfl
  · refine (Parallel.lift_same (by rw [own.holds (by decide), own'.holds (by decide)])).bind
      fun isReference _ ⟨rfl, _⟩ => ?_
    refine Parallel.branch (Option.Rel (Bodies model contract))
      (fun _ => (parallel_resolve? refers rfl ⟨held, own, own'⟩).mono fun target target' related => ?_)
      (fun _ => .pure (.some ⟨_, .inl rfl, held, own, own'⟩)) fun body? body?' bodies =>
        (Mappers.ofSymbol member (.request bodies)).run
    cases related with
    | none => exact .none
    | some shared => exact .some ⟨_, .inr rfl, shared⟩

theorem parallel_symbolExamples {symbol : Symbol} {operation operation' : Node}
    {nodes nodes' : List Node} (refers : RefersInto contract) (member : symbol ∈ model.symbols)
    (twins : Twins model.offer contract .operation operation operation')
    (listed : List.Forall₂ (ListedTwins model contract) nodes nodes') :
    Parallel model.offer contract Eq (symbolExamples operation nodes symbol)
      (symbolExamples operation' nodes' symbol) := by
  unfold symbolExamples
  split
  · exact parallel_payloadExamples refers member twins
  · exact parallel_parameterExamples refers member (by decide) listed
  · refine (Parallel.lift_same rfl).bind fun name _ ⟨rfl, _⟩ => ?_
    exact parallel_parameterExamples refers member (by decide) listed
  · exact .pure rfl

theorem listedTwins_of_elements {part : Part} {nodes nodes' : List Node}
    (looked : part.element.lookedUp = some .parameter)
    (both : Both (List.Forall₂ (Node.Counterpart model.offer contract part.element)) nodes nodes') :
    List.Forall₂ (ListedTwins model contract) nodes nodes' :=
  both.forall₂.imp fun _ _ twins => ⟨_, looked, twins⟩

theorem parallel_operationExamples {item item' shared shared' : Node} {method : String}
    (refers : RefersInto contract) (known : method ∈ Contract.methods)
    (items : Twins model.offer contract .item item item')
    (shareds : Twins model.offer contract .itemParameters shared shared') :
    Parallel model.offer contract Eq (operationExamples model item shared method)
      (operationExamples model item' shared' method) := by
  unfold operationExamples
  refine (Parallel.refresh items).bind fun item item' ⟨origin, first, second⟩ => ?_
  refine (Parallel.ask (first.member rfl) (second.member rfl)).bind
    fun operation operation' ⟨held, own, own'⟩ => ?_
  rw [Contract.child_of_mem_methods known] at own own'
  rw [own.truthy rfl, own'.truthy rfl, own.value_member (by decide) (by decide),
    own'.value_member (by decide) (by decide)]
  split
  · exact .pure rfl
  · refine (Parallel.lift_same rfl).bind fun operationId _ ⟨rfl, _⟩ => ?_
    split
    · exact .pure rfl
    · refine (Parallel.lift_same rfl).bind fun function? _ ⟨rfl, found⟩ => ?_
      cases function? with
      | none => exact .pure rfl
      | some function =>
          refine (Parallel.ask (Contract.agree_parameters own) (Contract.agree_parameters own')).bind
            fun placed placed' listed => ?_
          refine (Parallel.refresh shareds).bind fun shared shared' ⟨before, one, other⟩ => ?_
          refine (Parallel.ask (one.elements rfl) (other.elements rfl)).bind fun more more' common => ?_
          have all :
            List.Forall₂ (ListedTwins model contract) (placed ++ more) (placed' ++ more') :=
            List.rel_append (listed.forall₂.imp fun _ _ twins => ⟨_, rfl, twins⟩)
              (listedTwins_of_elements rfl common)
          refine (Parallel.forM_same fun symbol member => ?_).bind fun _ _ _ =>
            Parallel.forM_same fun symbol member => ?_
          · have offered := mem_symbols_of_functionFor? found (List.mem_append_left _ member)
            exact parallel_symbolExamples refers offered ⟨held, own, own'⟩ all
          · have offered := mem_symbols_of_functionFor? found (List.mem_append_right _ member)
            exact parallel_parameterExamples refers offered (by decide) all

theorem parallel_itemExamples {item item' : Node} (refers : RefersInto contract)
    (items : Twins model.offer contract .item item item') :
    Parallel model.offer contract Eq (itemExamples model item) (itemExamples model item') := by
  unfold itemExamples
  refine (Parallel.refresh items).bind fun item item' items => ?_
  have ⟨origin, first, second⟩ := items
  refine (Parallel.ask (first.member rfl) (second.member rfl)).bind
    fun shared shared' ⟨held, own, own'⟩ => ?_
  exact Parallel.forM_same fun method known => parallel_operationExamples refers known items
    ⟨_, own.orElse rfl rfl, own'.orElse rfl rfl⟩

/-- A step for each schema of the components, and then another one. -/
theorem Parallel.eachSchema {step : String → Node → Edit Unit} {next : Edit Unit}
    (each : ∀ {key : String} {schema schema' : Node},
      Twins model.offer contract .schema schema schema' →
        Parallel model.offer contract Eq (step key schema) (step key schema'))
    (after : Parallel model.offer contract Eq next next) :
    Parallel model.offer contract Eq
      (do
        let document ← Edit.root
        let schemas ← Edit.lift do (← Contract.schemas document).entries
        schemas.forM fun (key, schema) => step key schema
        next)
      (do
        let document ← Edit.root
        let schemas ← Edit.lift do (← Contract.schemas document).entries
        schemas.forM fun (key, schema) => step key schema
        next) := by
  refine Parallel.root.bind fun document document' ⟨origin, first, second⟩ => ?_
  refine (Parallel.ask (Contract.agree_schemaEntries first)
    (Contract.agree_schemaEntries second)).bind fun entries entries' both => ?_
  refine (Parallel.forM both.forall₂ fun entry entry' related => ?_).bind fun _ _ _ => after
  obtain ⟨⟨name, schema⟩, ⟨same, own⟩, same', own'⟩ := related
  simp only [same, same']
  exact each ⟨schema, own, own'⟩

theorem parallel_examples (refers : RefersInto contract) :
    Parallel model.offer contract Eq (examples model) (examples model) := by
  refine Parallel.eachSchema parallel_typeExamples ?_
  refine Parallel.root.bind fun document document' ⟨origin, first, second⟩ => ?_
  have paths {node : Node} (counterpart : Node.Counterpart model.offer contract .contract origin node) :=
    (Contract.agree_paths counterpart).bind fun _ _ own => own.entries rfl
  refine (Parallel.ask (paths first) (paths second)).bind fun entries entries' both => ?_
  refine Parallel.forM both.forall₂ fun entry entry' related => ?_
  obtain ⟨⟨name, item⟩, ⟨-, own⟩, -, own'⟩ := related
  exact parallel_itemExamples refers ⟨item, own, own'⟩

/-! ## Descriptions -/

theorem offered_documentation {symbol : Symbol} (member : symbol ∈ model.symbols)
    (counts : symbol.facts.documentation.truthy = true) :
    model.offer.descriptions symbol.facts.documentation := ⟨counts, symbol, member, rfl⟩

theorem parallel_typeDescriptions {key : String} {schema schema' : Node}
    (twins : Twins model.offer contract .schema schema schema') :
    Parallel model.offer contract Eq (typeDescriptions model key schema)
      (typeDescriptions model key schema') := by
  unfold typeDescriptions
  refine (Parallel.refresh twins).bind fun schema schema' twins => ?_
  have ⟨origin, first, second⟩ := twins
  rw [sourceName_eq first, sourceName_eq second]
  refine (Parallel.lift_same rfl).bind fun found _ ⟨rfl, answered⟩ => ?_
  obtain ⟨typeName, -, answered⟩ := except_bind_eq_ok.1 answered
  cases found with
  | none => exact .pure rfl
  | some symbol =>
      have described := offered_documentation (mem_symbols_of_typeNamed? answered)
      refine (Parallel.describe rfl described twins).bind fun _ _ _ => ?_
      refine (Parallel.refresh twins).bind fun schema schema' ⟨origin, first, second⟩ => ?_
      refine (Parallel.ask (first.member rfl) (second.member rfl)).bind
        fun properties properties' ⟨held, own, own'⟩ => ?_
      have empty : (Json.object []).truthy = false := rfl
      have one := own.orElse rfl empty
      have other := own'.orElse rfl empty
      refine Parallel.forM_same fun field member => ?_
      refine (Parallel.lift_same (by rw [one.holds rfl, other.holds rfl])).bind
        fun present _ ⟨rfl, _⟩ => ?_
      split
      · refine (Parallel.ask (one.required rfl) (other.required rfl)).bind
          fun property property' twins => ?_
        exact .describe rfl (offered_documentation (mem_symbols_of_field answered member)) twins
      · exact .pure rfl

theorem offered_of_documentations {symbols : List Symbol} {documented : List (String × Json)}
    (listed : documentations symbols = .ok documented)
    (offered : ∀ symbol ∈ symbols, symbol ∈ model.symbols) :
    ∀ entry ∈ documented, model.offer.descriptions entry.2 := by
  induction symbols generalizing documented with
  | nil => cases listed; nofun
  | cons symbol rest ih =>
      obtain ⟨own, others⟩ := List.forall_mem_cons.1 offered
      unfold documentations at listed
      split at listed
      · rename_i counts
        obtain ⟨name, -, listed⟩ := except_bind_eq_ok.1 listed
        obtain ⟨more, found, same⟩ := except_bind_eq_ok.1 listed
        obtain rfl := except_pure_eq_ok.1 same
        refine List.forall_mem_append.2 ⟨ih found others, List.forall_mem_singleton.2 ?_⟩
        exact offered_documentation own counts
      · exact ih listed others

theorem parallel_parameterDescription {documented : List (String × Json)} {parameter parameter' : Node}
    (offered : ∀ entry ∈ documented, model.offer.descriptions entry.2)
    (twins : Twins model.offer contract (.use .parameter) parameter parameter') :
    Parallel model.offer contract Eq (parameterDescription documented parameter)
      (parameterDescription documented parameter') := by
  unfold parameterDescription
  refine (Parallel.refresh twins).bind fun parameter parameter' twins => ?_
  have ⟨origin, first, second⟩ := twins
  rw [first.holds (by decide), second.holds (by decide),
    first.value_member? (by decide) (by decide), second.value_member? (by decide) (by decide)]
  refine (Parallel.lift_same rfl).bind fun isReference _ ⟨rfl, _⟩ => ?_
  split
  · exact .pure rfl
  · refine (Parallel.lift_same rfl).bind fun name _ ⟨rfl, _⟩ => ?_
    refine (Parallel.lift_same rfl).bind fun text _ ⟨rfl, _⟩ => ?_
    refine Parallel.describe rfl (fun counts => ?_) twins
    cases found : documented.lookup (Name.display text) with
    | none => rw [found] at counts; cases counts
    | some documentation => exact offered _ (mem_of_lookup found)

theorem parallel_operationDescriptions {operation operation' : Contract.Operation}
    (related : Both (Contract.Operation.Counterpart model.offer contract) operation operation') :
    Parallel model.offer contract Eq (operationDescriptions model operation)
      (operationDescriptions model operation') := by
  obtain ⟨origin, one, other⟩ := related
  unfold operationDescriptions
  refine (Parallel.refresh ⟨origin.node, one.node, other.node⟩).bind
    fun node node' ⟨held, own, own'⟩ => ?_
  rw [own.value_member (by decide) (by decide), own'.value_member (by decide) (by decide)]
  refine (Parallel.lift_same rfl).bind fun operationId _ ⟨rfl, _⟩ => ?_
  refine (Parallel.lift_same rfl).bind fun function? _ ⟨rfl, found⟩ => ?_
  cases function? with
  | none => exact .pure rfl
  | some function =>
      refine (Parallel.lift_same rfl).bind fun documented _ ⟨rfl, listed⟩ => ?_
      refine (Parallel.ask (Contract.agree_parameters own) (Contract.agree_parameters own')).bind
        fun nodes nodes' both => ?_
      refine Parallel.forM both.forall₂ fun _ _ => parallel_parameterDescription ?_
      refine offered_of_documentations listed fun symbol member => ?_
      exact mem_symbols_of_functionFor? found (List.mem_append.2 (List.mem_append.1 member).symm)

theorem parallel_descriptions :
    Parallel model.offer contract Eq (descriptions model) (descriptions model) := by
  refine Parallel.eachSchema parallel_typeDescriptions ?_
  refine Parallel.root.bind fun document document' ⟨origin, first, second⟩ => ?_
  refine (Parallel.ask (Contract.agree_operations first) (Contract.agree_operations second)).bind
    fun operations operations' both => ?_
  exact Parallel.forM both.forall₂ fun _ _ => parallel_operationDescriptions

/-- From drafts of one contract an enrichment does the same. -/
theorem parallel_enrich (refers : RefersInto contract) :
    Parallel model.offer contract Eq (enrich model) (enrich model) := by
  unfold enrich
  refine (parallel_examples refers).bind fun _ _ _ => parallel_descriptions.bind fun _ _ _ => ?_
  exact Parallel.get.bind fun _ _ _ => .note

end Enrichment

end TypedContract
