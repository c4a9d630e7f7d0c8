/-
# TypedContract.Proofs.Enrichment.Fits -- when an enrichment comes back

`SymbolModel.Fits symbols contract` says what an enrichment asks of a contract that can be
walked (`Contract.Walks`): something of each component schema, of each path item and of each
operation.  Parts that no symbol asks for may be anything, except that a component schema and
a path item have to be objects.  An enrichment comes back exactly when the symbols fit
(`exists_enrich_iff`), whatever it has written on the way.
-/
import TypedContract.Proofs.Enrichment.Serving

namespace TypedContract

set_option autoImplicit false

open Contract (Part)

/-! ## The operations of a contract -/

namespace Node

variable {node : Node} {name : String}

theorem under_orElse : (node.orElse (.object [])).under name = node.under name := by
  unfold orElse
  split
  · rfl
  · next silent =>
      unfold Node.under
      cases object : node.value with
      | object entries =>
          rw [object] at silent
          cases entries with
          | nil => rfl
          | cons entry rest => exact absurd rfl silent
      | _ => rfl

end Node

namespace Contract

/-- The parameters that the operations of a path item share. -/
def sharedOf (item : Node) : Node := (item.under "parameters").orElse (.list [])

variable {path : String} {item shared : Node} {passes : Node → Node → Prop}
  {found : List Operation}

/-- The operations of a path item are the objects under its methods. -/
theorem forall_operationsOf_iff {entries : List (String × Json)} {names : List String}
    (object : item.value = .object entries)
    (listed : operationsOf path item shared names = .ok found) :
    (∀ operation ∈ found, passes operation.node operation.shared) ↔
      ∀ method ∈ names, (item.value.under method).IsObject → passes (item.under method) shared := by
  induction names generalizing found with
  | nil =>
      cases listed
      exact iff_of_true nofun nofun
  | cons method rest ih =>
      obtain ⟨node, held, further⟩ := except_bind_eq_ok.1 listed
      obtain ⟨more, later, same⟩ := except_bind_eq_ok.1 further
      rw [Node.member_of_object object] at held
      cases held
      rw [List.forall_mem_cons, ← ih later, ← Node.value_under]
      cases kind : (item.under method).value with
      | object inner =>
          rw [kind] at same
          obtain rfl := except_pure_eq_ok.1 same
          rw [List.forall_mem_cons]
          exact and_congr_left fun _ => ⟨fun passed _ => passed, fun passed => passed ⟨inner, rfl⟩⟩
      | _ =>
          rw [kind] at same
          obtain rfl := except_pure_eq_ok.1 same
          refine ⟨fun passed => ⟨?_, passed⟩, And.right⟩
          rintro ⟨inner, isObject⟩
          cases isObject

theorem forall_operationsOfItems_iff (passes : Node → Node → Prop) {items : List (String × Node)}
    (listed : operationsOfItems items = .ok found) :
    (∀ operation ∈ found, passes operation.node operation.shared) ↔
      ∀ entry ∈ items, ∀ method ∈ methods, (entry.2.value.under method).IsObject →
        passes (entry.2.under method) (sharedOf entry.2) := by
  induction items generalizing found with
  | nil =>
      cases listed
      exact iff_of_true nofun nofun
  | cons entry rest ih =>
      obtain ⟨path, item⟩ := entry
      rw [List.forall_mem_cons]
      cases object : item.value with
      | object entries =>
          unfold operationsOfItems at listed
          rw [object] at listed
          obtain ⟨held, member, further⟩ := except_bind_eq_ok.1 listed
          obtain ⟨own, here, further⟩ := except_bind_eq_ok.1 further
          obtain ⟨more, later, same⟩ := except_bind_eq_ok.1 further
          obtain rfl := except_pure_eq_ok.1 same
          obtain rfl := Node.eq_under_of_member member
          rw [List.forall_mem_append, ih later, forall_operationsOf_iff object here, object]
          rfl
      | _ =>
          unfold operationsOfItems at listed
          rw [object] at listed
          rw [ih listed, and_iff_right]
          rintro method - ⟨inner, isObject⟩
          cases isObject

variable {document : Node} {entries : List (String × Node)}

theorem eq_held_of_schemas (walked : (do (← schemas document).entries) = .ok entries) :
    entries = ((document.under "components").under "schemas").held := by
  obtain ⟨schemas, found, walked⟩ := except_bind_eq_ok.1 walked
  obtain ⟨components, first, further⟩ := except_bind_eq_ok.1 found
  obtain ⟨shelf, second, same⟩ := except_bind_eq_ok.1 further
  obtain rfl := except_pure_eq_ok.1 same
  obtain rfl := Node.eq_under_of_member first
  obtain rfl := Node.eq_under_of_member second
  have held := Node.eq_held_of_entries walked
  rwa [show empty = .object [] from rfl, Node.under_orElse] at held

theorem eq_held_of_paths (walked : (do (← paths document).entries) = .ok entries) :
    entries = (document.under "paths").held := by
  obtain ⟨paths, found, walked⟩ := except_bind_eq_ok.1 walked
  obtain ⟨held, member, same⟩ := except_bind_eq_ok.1 found
  obtain rfl := except_pure_eq_ok.1 same
  obtain rfl := Node.eq_under_of_member member
  exact Node.eq_held_of_entries walked

end Contract

/-- The components and the operations of a contract can be walked. -/
structure Contract.Walks (contract : Json) : Prop where
  schemas : ∃ entries, (do (← schemas (.root 0 contract)).entries) = .ok entries
  operations : ∃ found, operations (.root 0 contract) = .ok found ∧
    ∀ operation ∈ found, Enrichment.Walkable operation.node operation.shared

namespace Contract.Walks

variable {contract : Json}

theorem schemaEntries (walks : Walks contract) :
    (do (← Contract.schemas (.root 0 contract)).entries) =
      .ok (((Node.root 0 contract).under "components").under "schemas").held := by
  obtain ⟨entries, walked⟩ := walks.schemas
  rw [walked, eq_held_of_schemas walked]

theorem operationsOfItems (walks : Walks contract) :
    ∃ found, Contract.operationsOfItems ((Node.root 0 contract).under "paths").held = .ok found ∧
      Contract.operations (.root 0 contract) = .ok found ∧
      (do (← Contract.paths (.root 0 contract)).entries) =
        .ok ((Node.root 0 contract).under "paths").held := by
  obtain ⟨found, listed, -⟩ := walks.operations
  obtain ⟨paths, here, further⟩ := except_bind_eq_ok.1 listed
  obtain ⟨items, walked, further⟩ := except_bind_eq_ok.1 further
  have whole : (do (← Contract.paths (.root 0 contract)).entries) = .ok items :=
    except_bind_eq_ok.2 ⟨paths, here, walked⟩
  obtain rfl := eq_held_of_paths whole
  exact ⟨found, further, listed, whole⟩

/-- The objects under the methods of path items can be walked. -/
theorem walkable (walks : Walks contract) {entry : String × Node}
    (known : entry ∈ ((Node.root 0 contract).under "paths").held) {method : String}
    (member : method ∈ methods) (object : (entry.2.value.under method).IsObject) :
    Enrichment.Walkable (entry.2.under method) (sharedOf entry.2) := by
  obtain ⟨found, listed, same, -⟩ := walks.operationsOfItems
  obtain ⟨found', same', each⟩ := walks.operations
  obtain rfl := Except.ok.inj (same.symm.trans same')
  exact (forall_operationsOfItems_iff _ listed).1 each entry known method member object

end Contract.Walks

namespace Enrichment

open Edit (Mirrors Succeeds)

/-- A path item is an object, and so is what counts under a method. -/
structure FitsItem (item : Node) : Prop where
  object : item.value.IsObject
  methods : ∀ method ∈ Contract.methods, (item.value.under method).truthy = true →
    (item.value.under method).IsObject

/-- What is asked of an operation. -/
structure FitsOperation (symbols : SymbolModel) (contract : Json) (operation shared : Node) :
    Prop where
  examples : ServesExamples symbols contract operation shared
  descriptions : ServesDescriptions symbols operation

end Enrichment

open Enrichment in
/-- What an enrichment asks of a contract that can be walked. -/
structure SymbolModel.Fits (symbols : SymbolModel) (contract : Json) : Prop where
  types : ∀ entry ∈ (((Node.root 0 contract).under "components").under "schemas").held,
    FitsType symbols entry.1 entry.2
  items : ∀ entry ∈ ((Node.root 0 contract).under "paths").held, FitsItem entry.2
  operations : ∀ entry ∈ ((Node.root 0 contract).under "paths").held, ∀ method ∈ Contract.methods,
    (entry.2.value.under method).IsObject →
      FitsOperation symbols contract (entry.2.under method) (Contract.sharedOf entry.2)

namespace Enrichment

open Edit (Mirrors Succeeds)

section

variable {model : SymbolModel} {contract : Json}

theorem succeeds_itemExamples {item node : Node} (refers : RefersInto contract)
    (walkable : ∀ method ∈ Contract.methods, (item.value.under method).IsObject →
      Walkable (item.under method) (Contract.sharedOf item))
    (counterpart : Node.Counterpart model.offer contract .item item node) :
    Succeeds model.offer contract
      (FitsItem item ∧ ∀ method ∈ Contract.methods, (item.value.under method).IsObject →
        ServesExamples model contract (item.under method) (Contract.sharedOf item))
      (itemExamples model node) := by
  unfold itemExamples
  refine .given (.refresh counterpart) rfl fun node counterpart => ?_
  by_cases object : item.value.IsObject
  · obtain ⟨entries, here⟩ := object
    refine .given (.ask (counterpart.member rfl)) (Node.member_of_object here) fun found own => ?_
    refine (Succeeds.forM_same fun method member => succeeds_operationExamples refers member here
      (walkable method member) counterpart (own.orElse rfl rfl)).iff ⟨?_, ?_⟩
    · exact fun each => ⟨⟨⟨entries, here⟩, fun method member => (each method member).1⟩,
        fun method member => (each method member).2⟩
    · exact fun ⟨fits, serves⟩ method member => ⟨fits.methods method member, serves method member⟩
  · have faults : ¬ ∃ found, item.member "parameters" = .ok found :=
      fun ⟨_, held⟩ => object (Node.isObject_of_member held)
    exact (Succeeds.never (.ask (counterpart.member rfl)) faults).iff
      ⟨False.elim, fun both => object both.1.object⟩

/-- What all examples ask of a contract. -/
structure FitsAllExamples (symbols : SymbolModel) (contract : Json) : Prop where
  types : ∀ entry ∈ (((Node.root 0 contract).under "components").under "schemas").held,
    ∃ found, typeOf symbols entry.1 entry.2 = .ok found ∧
      ∀ symbol, found = some symbol → FitsExamples symbol entry.2.value
  items : ∀ entry ∈ ((Node.root 0 contract).under "paths").held,
    FitsItem entry.2 ∧ ∀ method ∈ Contract.methods, (entry.2.value.under method).IsObject →
      ServesExamples symbols contract (entry.2.under method) (Contract.sharedOf entry.2)

/-- A step for each schema of the components, and then another one. -/
theorem Succeeds.eachSchema {step : String → Node → Edit Unit} {next : Edit Unit}
    {condition : String × Node → Prop} {others : Prop} (walks : Contract.Walks contract)
    (each : ∀ {key : String} {origin node : Node},
      (key, origin) ∈ (((Node.root 0 contract).under "components").under "schemas").held →
        Node.Counterpart model.offer contract .schema origin node →
        Succeeds model.offer contract (condition (key, origin)) (step key node))
    (after : Succeeds model.offer contract others next) :
    Succeeds model.offer contract
      ((∀ entry ∈ (((Node.root 0 contract).under "components").under "schemas").held,
        condition entry) ∧ others)
      (do
        let document ← Edit.root
        let schemas ← Edit.lift do (← Contract.schemas document).entries
        schemas.forM fun (key, schema) => step key schema
        next) := by
  refine .given .root rfl fun document top => ?_
  refine .given (.ask (Contract.agree_schemaEntries top)) walks.schemaEntries fun schemas both => ?_
  refine .seq (.forM both fun entry entry' member related => ?_) fun _ => after
  obtain ⟨key, schema⟩ := entry
  obtain ⟨key', schema'⟩ := entry'
  obtain ⟨rfl, own⟩ := related
  exact each member own

theorem succeeds_examples (refers : RefersInto contract) (walks : Contract.Walks contract) :
    Succeeds model.offer contract (FitsAllExamples model contract) (examples model) := by
  obtain ⟨-, -, -, listed⟩ := walks.operationsOfItems
  refine (Succeeds.eachSchema walks (fun _ own => succeeds_typeExamples own) ?_).iff
    ⟨fun ⟨types, items⟩ => FitsAllExamples.mk types items, fun fits => ⟨fits.types, fits.items⟩⟩
  refine .given .root rfl fun document top => ?_
  have paths := (Contract.agree_paths top).bind fun _ _ own => own.entries rfl
  refine .given (.ask paths) listed fun items both => ?_
  exact .forM both fun entry entry' member related =>
    succeeds_itemExamples refers (fun _ => walks.walkable member) related.2

/-- A step that describes sites succeeds when they can be listed. -/
theorem Describes.succeeds {offer : Offer} {step : Edit Unit} {sites : Except Fault (List Site)}
    (describes : Describes offer contract step sites) :
    Succeeds offer contract (∃ listed, sites = .ok listed) step := by
  intro d enriched
  obtain ⟨forward, backward⟩ := describes d enriched
  refine ⟨?_, backward⟩
  rintro ⟨listed, same⟩
  obtain ⟨sited, e, returned, made⟩ := forward listed same
  exact ⟨e, returned, made.document ▸ Contract.carryOut_enriched sited enriched⟩

/-- What all descriptions ask of a contract. -/
structure FitsAllDescriptions (symbols : SymbolModel) (contract : Json) : Prop where
  types : ∀ entry ∈ (((Node.root 0 contract).under "components").under "schemas").held,
    ∃ found, typeOf symbols entry.1 entry.2 = .ok found ∧
      ∀ symbol, found = some symbol → FitsDescriptions symbol entry.2.value
  operations : ∀ entry ∈ ((Node.root 0 contract).under "paths").held, ∀ method ∈ Contract.methods,
    (entry.2.value.under method).IsObject → ServesDescriptions symbols (entry.2.under method)

theorem succeeds_descriptions (walks : Contract.Walks contract)
    (prepared : FitsAllExamples model contract) :
    Succeeds model.offer contract (FitsAllDescriptions model contract) (descriptions model) := by
  obtain ⟨found, items, listed, -⟩ := walks.operationsOfItems
  obtain ⟨found', listed', walkable⟩ := walks.operations
  obtain rfl := Except.ok.inj (listed.symm.trans listed')
  refine (Succeeds.eachSchema walks (fun member own => ?_) ?_).iff
    ⟨fun ⟨types, operations⟩ => FitsAllDescriptions.mk types operations,
      fun fits => ⟨fits.types, fits.operations⟩⟩
  · have examples := (exists_ok_forall_iff.1 (prepared.types _ member)).2
    exact succeeds_typeDescriptions examples own
  · refine .given .root rfl fun document top => ?_
    refine .given (.ask (Contract.agree_operations top)) listed fun operations both => ?_
    have each : Succeeds model.offer contract
        (∀ operation ∈ found, ServesDescriptions model operation.node)
        (operations.forM (operationDescriptions model)) :=
      .forM both fun operation operation' member related =>
        (describes_operationDescriptions related).succeeds.iff
          (exists_sitesOf_iff (walkable operation member))
    exact each.iff (Contract.forall_operationsOfItems_iff
      (fun operation _ => ServesDescriptions model operation) items)

/-- What examples and descriptions ask, part by part. -/
theorem fits_iff : FitsAllExamples model contract ∧ FitsAllDescriptions model contract ↔
    model.Fits contract := by
  constructor
  · rintro ⟨examples, descriptions⟩
    refine ⟨fun entry member => ?_, fun entry member => (examples.items entry member).1,
      fun entry member method known object => ⟨?_, ?_⟩⟩
    · obtain ⟨typed, writes⟩ := exists_ok_forall_iff.1 (examples.types entry member)
      obtain ⟨-, describes⟩ := exists_ok_forall_iff.1 (descriptions.types entry member)
      obtain ⟨object, name⟩ := exists_typeOf_iff.1 typed
      exact ⟨object, name, writes, describes⟩
    · exact (examples.items entry member).2 method known object
    · exact descriptions.operations entry member method known object
  · intro fits
    have typed (entry : String × Node)
        (member : entry ∈ (((Node.root 0 contract).under "components").under "schemas").held) :
        ∃ found, typeOf model entry.1 entry.2 = .ok found :=
      exists_typeOf_iff.2 ⟨(fits.types entry member).object, (fits.types entry member).name⟩
    refine ⟨⟨fun entry member => ?_, fun entry member => ⟨fits.items entry member, ?_⟩⟩,
      ⟨fun entry member => ?_, ?_⟩⟩
    · exact exists_ok_forall_iff.2 ⟨typed entry member, (fits.types entry member).examples⟩
    · exact fun method known object => (fits.operations entry member method known object).examples
    · exact exists_ok_forall_iff.2 ⟨typed entry member, (fits.types entry member).descriptions⟩
    · exact fun entry member method known object =>
        (fits.operations entry member method known object).descriptions

theorem succeeds_enrich (refers : RefersInto contract) (walks : Contract.Walks contract) :
    Succeeds model.offer contract (model.Fits contract) (enrich model) := by
  unfold enrich
  have noted : Succeeds model.offer contract True (do
      let count := (← get).diagnostics.length
      Edit.note .info .driver ("enriched contract (" ++ toString count ++ " diagnostics)")) :=
    .given .get rfl fun _ _ => .note
  refine ((succeeds_examples refers walks).seq fun prepared =>
    (succeeds_descriptions walks prepared).seq fun _ => noted).iff ?_
  rw [and_true]
  exact fits_iff

/-- On a contract that can be walked an enrichment comes back exactly when the symbols fit. -/
theorem exists_enrich_iff {d : Draft} (refers : RefersInto d.document)
    (walks : Contract.Walks d.document) :
    (∃ e, Edit.Returns (enrich model) d () e) ↔ model.Fits d.document := by
  have whole : Succeeds model.offer d.document (model.Fits d.document) (enrich model) :=
    succeeds_enrich refers walks
  obtain ⟨forward, backward⟩ := whole d (.refl _ _)
  constructor
  · rintro ⟨e, returned⟩
    exact backward e returned
  · intro fits
    obtain ⟨e, returned, -⟩ := forward fits
    exact ⟨e, returned⟩

end

end Enrichment

end TypedContract
