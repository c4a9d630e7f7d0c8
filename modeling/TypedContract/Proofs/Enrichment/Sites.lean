/-
# TypedContract.Proofs.Enrichment.Sites -- the parameters that may be described

The last pass of an enrichment describes the parameters that stand in the operations
themselves.  Nothing that it reads is written by it, so what it will do can be told from the
contract before: `sitesOf` lists the parameters of an operation that are no references, each
with its canonical name and the function that is asked for documentation.  What a function
says under a name is the documentation of the last of its parameters that is documented and
has this canonical name (`FunctionSymbol.documentation?`).

The sites of a contract stand apart (`allSites_apart`).  So two ways to describe them lead
to the same contract exactly when they say the same of each parameter that lacks a
description (`Site.carryOut_via_iff`).
-/
import TypedContract.Proofs.Contract.Apart
import TypedContract.Proofs.Enrichment.Steps

namespace TypedContract

set_option autoImplicit false

open Contract (Part Effect)

theorem Json.eq_str_of_text {value : Json} {content : String} (read : value.text = .ok content) :
    value = .str content := by
  cases value with
  | str text => cases read; rfl
  | _ => cases read

/-! ## What a function says -/

/-- The documentation of a symbol whose canonical name is the given one. -/
def Symbol.documents? (name : String) (symbol : Symbol) : Option Json :=
  match symbol.name with
  | .str text =>
      if symbol.facts.documentation.truthy && Name.display text == name then
        some symbol.facts.documentation
      else none
  | _ => none

namespace Symbol

variable {symbol : Symbol} {name : String}

theorem documents?_of_truthy {text : String} (own : symbol.name = .str text)
    (counts : symbol.facts.documentation.truthy = true) :
    symbol.documents? name =
      if name == Name.display text then some symbol.facts.documentation else none := by
  rw [documents?, own]
  simp only [counts, Bool.true_and, beq_iff_eq, eq_comm (a := name)]

theorem documents?_of_silent (silent : ¬ symbol.facts.documentation.truthy = true) :
    symbol.documents? name = none := by
  rw [Bool.not_eq_true] at silent
  unfold documents?
  split
  · rw [silent]
    rfl
  · rfl

end Symbol

/-- The documentation of the last parameter that has any and has the canonical name. -/
def FunctionSymbol.documentation? (function : FunctionSymbol) (name : String) : Option Json :=
  (function.pathParameters ++ function.parameters).reverse.findSome? (Symbol.documents? name)

/-- The documented symbols have names that are texts. -/
def NamedByTexts (symbols : List Symbol) : Prop :=
  ∀ symbol ∈ symbols, symbol.facts.documentation.truthy = true → ∃ text, symbol.name = .str text

namespace Enrichment

variable {symbols : List Symbol} {documented : List (String × Json)} {name : String}

theorem exists_documentations_iff :
    (∃ documented, documentations symbols = .ok documented) ↔ NamedByTexts symbols := by
  induction symbols with
  | nil => exact ⟨fun _ => nofun, fun _ => ⟨[], rfl⟩⟩
  | cons symbol rest ih =>
      unfold NamedByTexts
      rw [List.forall_mem_cons, documentations]
      split
      · next counts =>
          constructor
          · rintro ⟨documented, listed⟩
            obtain ⟨text, named, further⟩ := except_bind_eq_ok.1 listed
            obtain ⟨more, later, -⟩ := except_bind_eq_ok.1 further
            exact ⟨fun _ => ⟨text, Json.eq_str_of_text named⟩, ih.1 ⟨more, later⟩⟩
          · rintro ⟨own, others⟩
            obtain ⟨text, named⟩ := own counts
            obtain ⟨more, later⟩ := ih.2 others
            rw [named, later]
            exact ⟨_, rfl⟩
      · next silent =>
          exact ih.trans ⟨fun others => ⟨fun counts => absurd counts silent, others⟩, And.right⟩

theorem lookup_documentations (listed : documentations symbols = .ok documented) :
    documented.lookup name = symbols.reverse.findSome? (Symbol.documents? name) := by
  induction symbols generalizing documented with
  | nil => cases listed; rfl
  | cons symbol rest ih =>
      rw [List.reverse_cons, List.findSome?_append]
      rw [documentations] at listed
      split at listed
      · next counts =>
          obtain ⟨text, named, further⟩ := except_bind_eq_ok.1 listed
          obtain ⟨more, later, same⟩ := except_bind_eq_ok.1 further
          obtain rfl := except_pure_eq_ok.1 same
          have own : symbol.name = .str text := Json.eq_str_of_text named
          have last : [(Name.display text, symbol.facts.documentation)].lookup name =
              [symbol].findSome? (Symbol.documents? name) := by
            rw [List.findSome?_singleton, Symbol.documents?_of_truthy own counts, List.lookup_cons]
            cases name == Name.display text <;> rfl
          rw [List.lookup_append, ih later, last]
      · next silent =>
          rw [ih listed, List.findSome?_singleton, Symbol.documents?_of_silent silent]
          exact (Option.or_none ..).symm

/-! ## Collecting -/

section

variable {α β : Type} {step step' : α → Except Fault (List β)} {xs : List α} {listed : List β}

/-- What the items give, in order. -/
def collect (step : α → Except Fault (List β)) : List α → Except Fault (List β)
  | [] => .ok []
  | x :: xs => do
      let own ← step x
      return own ++ (← collect step xs)

theorem collect_cons_eq_ok {x : α} :
    collect step (x :: xs) = .ok listed ↔
      ∃ own more, step x = .ok own ∧ collect step xs = .ok more ∧ own ++ more = listed := by
  simp only [collect, except_bind_eq_ok, except_pure_eq_ok, exists_and_left]

theorem mem_collect (found : collect step xs = .ok listed) {y : β} (member : y ∈ listed) :
    ∃ x ∈ xs, ∃ own, step x = .ok own ∧ y ∈ own := by
  induction xs generalizing listed with
  | nil => cases found; cases member
  | cons x xs ih =>
      obtain ⟨own, more, here, later, rfl⟩ := collect_cons_eq_ok.1 found
      rcases List.mem_append.1 member with inside | inside
      · exact ⟨x, List.mem_cons_self, own, here, inside⟩
      · obtain ⟨x', known, given⟩ := ih later inside
        exact ⟨x', List.mem_cons_of_mem _ known, given⟩

theorem exists_of_collect (found : collect step xs = .ok listed) {x : α} (member : x ∈ xs) :
    ∃ own, step x = .ok own ∧ own ⊆ listed := by
  induction xs generalizing listed with
  | nil => cases member
  | cons first xs ih =>
      obtain ⟨own, more, here, later, rfl⟩ := collect_cons_eq_ok.1 found
      rcases List.mem_cons.1 member with rfl | inside
      · exact ⟨own, here, List.subset_append_left _ _⟩
      · obtain ⟨given, known, within⟩ := ih later inside
        exact ⟨given, known, List.Subset.trans within (List.subset_append_right _ _)⟩

theorem exists_collect (each : ∀ x ∈ xs, ∃ own, step x = .ok own) :
    ∃ listed, collect step xs = .ok listed := by
  induction xs with
  | nil => exact ⟨[], rfl⟩
  | cons x xs ih =>
      obtain ⟨first, rest⟩ := List.forall_mem_cons.1 each
      obtain ⟨own, here⟩ := first
      obtain ⟨more, later⟩ := ih rest
      exact ⟨_, collect_cons_eq_ok.2 ⟨own, more, here, later, rfl⟩⟩

theorem collect_map {f : β → β} (each : ∀ x ∈ xs, ∀ own, step x = .ok own → step' x = .ok (own.map f))
    (found : collect step xs = .ok listed) : collect step' xs = .ok (listed.map f) := by
  induction xs generalizing listed with
  | nil => cases found; rfl
  | cons x xs ih =>
      obtain ⟨first, rest⟩ := List.forall_mem_cons.1 each
      obtain ⟨own, more, here, later, rfl⟩ := collect_cons_eq_ok.1 found
      exact collect_cons_eq_ok.2 ⟨_, _, first own here, ih rest later, List.map_append.symm⟩

/-- What items that stand apart give stands apart, if it does for each item. -/
theorem pairwise_collect {apart : α → α → Prop} {apart' : β → β → Prop} (items : xs.Pairwise apart)
    (each : ∀ x ∈ xs, ∀ own, step x = .ok own → own.Pairwise apart')
    (across : ∀ x x' own own', apart x x' → step x = .ok own → step x' = .ok own' →
      ∀ y ∈ own, ∀ y' ∈ own', apart' y y')
    (found : collect step xs = .ok listed) : listed.Pairwise apart' := by
  induction xs generalizing listed with
  | nil => cases found; exact .nil
  | cons x xs ih =>
      obtain ⟨away, others⟩ := List.pairwise_cons.1 items
      obtain ⟨first, rest⟩ := List.forall_mem_cons.1 each
      obtain ⟨own, more, here, later, rfl⟩ := collect_cons_eq_ok.1 found
      refine List.pairwise_append.2 ⟨first own here, ih others rest later, ?_⟩
      intro y member y' member'
      obtain ⟨x', known, own', here', within⟩ := mem_collect later member'
      exact across x x' own own' (away x' known) here here' y member y' within

end

/-! ## Sites -/

/-- A parameter that may be described: its canonical name, and the function that is asked. -/
structure Site where
  function : FunctionSymbol
  parameter : Node
  name : String

namespace Site

/-- What is done to the entries of the parameter. -/
def change (site : Site) (entries : List (String × Json)) : List (String × Json) :=
  match site.function.documentation? site.name with
  | some text => (Contract.Change.description text).on entries
  | none => entries

/-- What is done to a contract. -/
def effects (site : Site) : List Effect :=
  match site.function.documentation? site.name with
  | some text => Edit.effectsAt site.parameter (.description text)
  | none => []

end Site

/-- The site of a parameter that is no reference. -/
def siteOf (function : FunctionSymbol) (parameter : Node) : Except Fault (List Site) := do
  if ← parameter.value.holds "$ref" then return []
  let name := (← parameter.value.member? "name").getD (.str "")
  return [⟨function, parameter, Name.display (← name.text)⟩]

/-- The parameters that stand in an operation. -/
def ownParameters (operation : Node) : Except Fault (List Node) := do
  ((← operation.member "parameters").orElse (.list [])).elements

/-- The function of an operation. -/
def functionOf (symbols : SymbolModel) (operation : Node) : Except Fault (Option FunctionSymbol) := do
  symbols.functionFor? ((← operation.value.member "operationId").orElse (.str ""))

/-- The sites of an operation. -/
def sitesOf (symbols : SymbolModel) (operation : Contract.Operation) : Except Fault (List Site) := do
  match ← functionOf symbols operation.node with
  | none => return []
  | some function =>
      let _ ← documentations (function.pathParameters ++ function.parameters)
      collect (siteOf function) (← ownParameters operation.node)

/-- The sites of some operations, in order. -/
def allSites (symbols : SymbolModel) (operations : List Contract.Operation) :
    Except Fault (List Site) := collect (sitesOf symbols) operations

/-! ## What the sites are -/

section

variable {symbols : SymbolModel} {function : FunctionSymbol} {parameter : Node} {site : Site}
  {listed : List Site} {operation : Contract.Operation} {operations : List Contract.Operation}

/-- The parameter is no reference, and this is its name. -/
def Named (parameter : Node) (text : String) : Prop :=
  ∃ entries, parameter.value = .object entries ∧ Json.find? "$ref" entries = none ∧
    (Json.find? "name" entries).getD (.str "") = .str text

theorem Named.unique {text text' : String} (named : Named parameter text)
    (named' : Named parameter text') : text = text' := by
  obtain ⟨entries, object, -, own⟩ := named
  obtain ⟨entries', object', -, own'⟩ := named'
  cases object.symm.trans object'
  cases own.symm.trans own'
  rfl

/-- A parameter has one site if it has a name, and none if it is a reference. -/
theorem siteOf_cases (found : siteOf function parameter = .ok listed) :
    (listed = [] ∧ ∀ text, ¬ Named parameter text) ∨
      ∃ text, Named parameter text ∧ listed = [⟨function, parameter, Name.display text⟩] := by
  obtain ⟨isReference, held, further⟩ := except_bind_eq_ok.1 found
  split at further
  · next refers =>
      refine .inl ⟨(except_pure_eq_ok.1 further).symm, ?_⟩
      rintro text ⟨entries, object, placed, -⟩
      rw [object] at held
      cases held
      rw [placed] at refers
      cases refers
  · next placed =>
      obtain ⟨name, named, further⟩ := except_bind_eq_ok.1 further
      obtain ⟨text, read, same⟩ := except_bind_eq_ok.1 further
      refine .inr ⟨text, ?_, (except_pure_eq_ok.1 same).symm⟩
      cases object : parameter.value with
      | object entries =>
          rw [object] at held named
          cases held
          cases named
          exact ⟨entries, object, by simpa using placed, Json.eq_str_of_text read⟩
      | _ => rw [object] at named; cases named

/-- An operation without a function has no sites, and otherwise its parameters have. -/
theorem sitesOf_cases (found : sitesOf symbols operation = .ok listed) :
    (functionOf symbols operation.node = .ok none ∧ listed = []) ∨
      ∃ function parameters, functionOf symbols operation.node = .ok (some function) ∧
        NamedByTexts (function.pathParameters ++ function.parameters) ∧
        ownParameters operation.node = .ok parameters ∧
        collect (siteOf function) parameters = .ok listed := by
  obtain ⟨function?, asked, further⟩ := except_bind_eq_ok.1 found
  cases function? with
  | none => exact .inl ⟨asked, (except_pure_eq_ok.1 further).symm⟩
  | some function =>
      obtain ⟨documented, legible, further⟩ := except_bind_eq_ok.1 further
      obtain ⟨parameters, own, collected⟩ := except_bind_eq_ok.1 further
      exact .inr ⟨function, parameters, asked, exists_documentations_iff.1 ⟨_, legible⟩, own, collected⟩

theorem sitesOf_of_function {parameters : List Node}
    (asked : functionOf symbols operation.node = .ok (some function))
    (legible : NamedByTexts (function.pathParameters ++ function.parameters))
    (own : ownParameters operation.node = .ok parameters) :
    sitesOf symbols operation = collect (siteOf function) parameters := by
  obtain ⟨documented, listed⟩ := exists_documentations_iff.2 legible
  unfold sitesOf
  rw [asked, except_ok_bind]
  dsimp only
  rw [listed, except_ok_bind, own, except_ok_bind]

/-! ## Where the sites are -/

theorem inside_of_ownParameters {node : Node} {parameters : List Node} {text : String}
    (own : ownParameters node = .ok parameters) (member : parameter ∈ parameters)
    (named : Named parameter text) : parameter.Inside node := by
  obtain ⟨found, held, walked⟩ := except_bind_eq_ok.1 own
  obtain ⟨entries, object, -⟩ := named
  have inside : parameter.Inside (found.orElse (.list [])) :=
    Node.inside_element walked member fun text same => by rw [object] at same; cases same
  exact (inside.of_orElse fun _ _ => rfl).of_member held

theorem ownParameters_apart {node : Node} {parameters : List Node}
    (own : ownParameters node = .ok parameters) : parameters.Pairwise Node.Apart := by
  obtain ⟨found, -, walked⟩ := except_bind_eq_ok.1 own
  exact Node.elements_apart walked

theorem named_of_mem_siteOf (found : siteOf function parameter = .ok listed) (member : site ∈ listed) :
    site.function = function ∧ site.parameter = parameter ∧
      ∃ text, Named parameter text ∧ site.name = Name.display text := by
  rcases siteOf_cases found with ⟨rfl, -⟩ | ⟨text, named, rfl⟩
  · cases member
  · obtain rfl := List.mem_singleton.1 member
    exact ⟨rfl, rfl, text, named, rfl⟩

/-- A site of an operation is one of its parameters, with the function of the operation. -/
theorem mem_sitesOf (found : sitesOf symbols operation = .ok listed) (member : site ∈ listed) :
    functionOf symbols operation.node = .ok (some site.function) ∧
      (∃ parameters, ownParameters operation.node = .ok parameters ∧ site.parameter ∈ parameters) ∧
      ∃ text, Named site.parameter text ∧ site.name = Name.display text := by
  rcases sitesOf_cases found with ⟨-, rfl⟩ | ⟨function, parameters, asked, -, own, collected⟩
  · cases member
  · obtain ⟨parameter, known, sites, here, within⟩ := mem_collect collected member
    obtain ⟨rfl, rfl, named⟩ := named_of_mem_siteOf here within
    exact ⟨asked, ⟨parameters, own, known⟩, named⟩

theorem inside_of_mem_sitesOf (found : sitesOf symbols operation = .ok listed)
    (member : site ∈ listed) : site.parameter.Inside operation.node := by
  obtain ⟨-, ⟨parameters, own, known⟩, text, named, -⟩ := mem_sitesOf found member
  exact inside_of_ownParameters own known named

theorem sitesOf_apart (found : sitesOf symbols operation = .ok listed) :
    listed.Pairwise fun site site' => site.parameter.Apart site'.parameter := by
  rcases sitesOf_cases found with ⟨-, rfl⟩ | ⟨function, parameters, -, -, own, collected⟩
  · exact .nil
  · refine pairwise_collect (ownParameters_apart own) (fun parameter _ sites here => ?_)
      (fun _ _ _ _ apart here here' site member site' member' => ?_) collected
    · rcases siteOf_cases here with ⟨rfl, -⟩ | ⟨text, -, rfl⟩
      · exact .nil
      · exact List.pairwise_singleton _ _
    · rw [(named_of_mem_siteOf here member).2.1, (named_of_mem_siteOf here' member').2.1]
      exact apart

/-- The sites of a contract stand apart. -/
theorem allSites_apart {document : Node} (operated : Contract.operations document = .ok operations)
    (found : allSites symbols operations = .ok listed) :
    listed.Pairwise fun site site' => site.parameter.Apart site'.parameter := by
  refine pairwise_collect (Contract.operations_apart operated) (fun _ _ _ => sitesOf_apart)
    (fun _ _ _ _ apart here here' site member site' member' => ?_) found
  have outer := apart.of_inside (inside_of_mem_sitesOf here member)
  exact (outer.symm.of_inside (inside_of_mem_sitesOf here' member')).symm

/-- The parameter of a site stands in the contract. -/
theorem stands_of_mem_allSites {contract : Json}
    (operated : Contract.operations (.root 0 contract) = .ok operations)
    (found : allSites symbols operations = .ok listed) (member : site ∈ listed) :
    ∃ place, site.parameter.place = some place ∧
      contract.at? place.path = some site.parameter.value := by
  obtain ⟨operation, known, sites, here, within⟩ := mem_collect found member
  have outer := Contract.inside_of_mem_operations operated known
  have inside := (inside_of_mem_sitesOf here within).trans outer
  have whole : (Node.root 0 contract).Stands 0 contract := Node.stands_root
  have standing := whole.of_inside inside
  obtain ⟨path, -, -, placed⟩ := inside
  exact ⟨_, placed, (standing _ placed).2⟩

end

/-! ## What is done to them -/

namespace Site

/-- The way to the parameter. -/
def path (site : Site) : List Nat := (site.parameter.place.map (·.path)).getD []

theorem carryOut_effects {site : Site} {document : Json} (placed : site.parameter.place.isSome = true) :
    Contract.carryOut site.effects document = Json.amendAt site.change site.path document := by
  obtain ⟨place, here⟩ := Option.isSome_iff_exists.1 placed
  unfold effects change path
  cases site.function.documentation? site.name with
  | none => exact Json.amendAt_id.symm
  | some text =>
      unfold Edit.effectsAt
      rw [here]
      rfl

/-- Describing sites is changing the entries of each. -/
theorem carryOut_flatMap {listed : List Site} {document : Json}
    (placed : ∀ site ∈ listed, site.parameter.place.isSome = true) :
    Contract.carryOut (listed.flatMap effects) document =
      Json.amendAll path change listed document := by
  induction listed generalizing document with
  | nil => rfl
  | cons site listed ih =>
      obtain ⟨first, rest⟩ := List.forall_mem_cons.1 placed
      rw [List.flatMap_cons, Contract.carryOut_append, carryOut_effects first, ih rest]
      rfl

/-- The description that a function gives counts. -/
theorem truthy_of_documentation? {function : FunctionSymbol} {name : String} {text : Json}
    (said : function.documentation? name = some text) : text.truthy = true := by
  obtain ⟨symbol, -, given⟩ := List.exists_of_findSome?_eq_some said
  unfold Symbol.documents? at given
  split at given
  · split at given
    · next both =>
        cases given
        exact (Bool.and_eq_true_iff.1 both).1
    · cases given
  · cases given

/-- The site with the function that another way of choosing gives. -/
def via (choose : FunctionSymbol → FunctionSymbol) (site : Site) : Site :=
  { site with function := choose site.function }

variable {choose : FunctionSymbol → FunctionSymbol} {site : Site} {listed : List Site}
  {document : Json}

/-- Where no description counts, the description after tells what the function says. -/
theorem find?_change (site : Site) {entries : List (String × Json)}
    (lacking : ((Json.find? "description" entries).getD .null).truthy = false) :
    (Json.find? "description" (site.change entries)).filter Json.truthy =
      site.function.documentation? site.name := by
  unfold change
  cases said : site.function.documentation? site.name with
  | none =>
      cases found : Json.find? "description" entries with
      | none => rfl
      | some text =>
          rw [found] at lacking
          exact Option.filter_some_neg (Bool.not_eq_true _ ▸ lacking)
  | some text =>
      dsimp only
      rw [Contract.Change.on_description, lacking, if_neg Bool.false_ne_true, Json.find?_put]
      exact Option.filter_some_pos (truthy_of_documentation? said)

/-- Two functions change a parameter alike exactly when it has a description that counts or
both say the same. -/
theorem change_via_iff {entries : List (String × Json)} :
    site.change entries = (site.via choose).change entries ↔
      (((Json.find? "description" entries).getD .null).truthy = false →
        site.function.documentation? site.name = (choose site.function).documentation? site.name) := by
  constructor
  · intro equal lacking
    have own := site.find?_change lacking
    have other := (site.via choose).find?_change lacking
    rw [← equal] at other
    exact own.symm.trans other
  · intro same
    unfold change via
    cases present : ((Json.find? "description" entries).getD .null).truthy with
    | false => rw [same present]
    | true =>
        have kept (text : Json) : (Contract.Change.description text).on entries = entries :=
          if_pos present
        simp only [kept]
        cases site.function.documentation? site.name <;>
          cases (choose site.function).documentation? site.name <;> rfl

/-- Describing sites apart in two ways gives one contract exactly when both ways say the same
of each parameter that has no description that counts. -/
theorem carryOut_via_iff
    (apart : listed.Pairwise fun site site' => site.parameter.Apart site'.parameter)
    (stands : ∀ site ∈ listed, ∃ place, site.parameter.place = some place ∧
      document.at? place.path = some site.parameter.value) :
    Contract.carryOut (listed.flatMap effects) document =
        Contract.carryOut ((listed.map (via choose)).flatMap effects) document ↔
      ∀ site ∈ listed, ∀ entries, site.parameter.value = .object entries →
        ((Json.find? "description" entries).getD .null).truthy = false →
          site.function.documentation? site.name = (choose site.function).documentation? site.name := by
  have placed (site : Site) (member : site ∈ listed) : site.parameter.place.isSome = true := by
    obtain ⟨place, here, -⟩ := stands site member
    exact Option.isSome_of_eq_some here
  -- of two parameters neither stands inside the other
  have diverge : listed.Pairwise fun site site' => Diverge site.path site'.path := by
    refine apart.imp_of_mem fun member member' apart => ?_
    obtain ⟨place, here, -⟩ := stands _ member
    obtain ⟨place', there, -⟩ := stands _ member'
    unfold path
    rw [here, there]
    exact apart place place' here there
  have again : Json.amendAll path change (listed.map (via choose)) document =
      Json.amendAll path (fun site => (site.via choose).change) listed document := List.foldl_map
  have placed' : ∀ site ∈ listed.map (via choose), site.parameter.place.isSome = true :=
    List.forall_mem_map.2 placed
  rw [carryOut_flatMap placed, carryOut_flatMap placed', again, Json.amendAll_eq_iff diverge]
  refine forall₂_congr fun site member => ?_
  obtain ⟨place, here, value⟩ := stands site member
  have found : document.at? site.path = some site.parameter.value := by
    unfold path
    rw [here]
    exact value
  rw [found]
  exact forall_congr' fun entries => imp_congr (Option.some_inj) change_via_iff

end Site

end Enrichment

end TypedContract
