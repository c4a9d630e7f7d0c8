/-
# TypedContract.Proofs.Fragments.Naming -- the names of the functions of a client

Each operation of a contract is given a name, and the names are told apart.  An
operation that is given up leaves its name out, so the functions of a client have some
of the names told apart, in their order (`names_of_ofContract`).
-/
import TypedContract.Proofs.Fragments.Steps
import TypedContract.Proofs.Name.Distinct
import TypedContract.Proofs.Signature.Steps

namespace TypedContract

set_option autoImplicit false

/-- A signature has the name that it is built for. -/
theorem SignatureBuilder.functionName_of_build {builder : SignatureBuilder}
    {functionName method path : String} {operation shared : Node} {s t : Session}
    {signature : Signature}
    (returned : Run.Returns (builder.build functionName method path operation shared) s
      (some signature) t) : signature.functionName = functionName := by
  obtain ⟨candidates, kept, u, v, steps⟩ := returns_build_some.1 returned
  exact steps.functionName

namespace Fragments

/-- The names of operations before they are told apart. -/
def givenNames (operations : List Contract.Operation) : Except Fault (List String) :=
  operations.mapM fun operation => do
    Name.ofOperation operation.method operation.path (← operation.node.value.member "operationId")

theorem length_givenNames {operations : List Contract.Operation} {names : List String}
    (given : givenNames operations = .ok names) : names.length = operations.length :=
  (mapM_eq_ok_iff.1 given).length_eq.symm

/-- Telling names apart leaves one for each operation. -/
theorem length_functionNames {operations : List Contract.Operation} {told : List String}
    (named : functionNames operations = .ok told) : told.length = operations.length := by
  obtain ⟨names, given, apart⟩ := except_bind_eq_ok.1 named
  have paired : names.length = (operations.map (·.method)).length := by
    rw [List.length_map, length_givenNames given]
  rw [Name.length_distinct paired apart, length_givenNames given]

/-- The signatures have the names of the operations that are not given up. -/
theorem names_of_signatures {builder : SignatureBuilder}
    {operations : List (String × Contract.Operation)} {s t : Session} {built : List Signature}
    (returned : Run.Returns (signatures builder operations) s built t) :
    (built.map (·.functionName)).Sublist (operations.map (·.1)) := by
  induction operations generalizing s built with
  | nil =>
      obtain ⟨rfl, -⟩ := Run.returns_pure.1 returned
      exact List.Sublist.slnil
  | cons operation rest ih =>
      obtain ⟨name, operation⟩ := operation
      unfold signatures at returned
      obtain ⟨found, u, first, returned⟩ := Run.returns_bind.1 returned
      cases found with
      | none =>
          obtain ⟨_, v, -, others⟩ := Run.returns_bind.1 returned
          exact (ih others).cons name
      | some signature =>
          simp only [Run.returns_bind, Run.returns_pure] at returned
          obtain ⟨more, v, others, rfl, rfl⟩ := returned
          have named : signature.functionName = name :=
            SignatureBuilder.functionName_of_build first
          rw [List.map_cons, List.map_cons, named]
          exact (ih others).cons_cons name

/-- The functions of a client have some of the names told apart. -/
theorem names_of_ofContract {document : Node} {configuration : Configuration} {s t : Session}
    {fragments : Fragments} (returned : Run.Returns (ofContract document configuration) s fragments t) :
    ∃ operations names told, Contract.operations document = .ok operations ∧
      givenNames operations = .ok names ∧
      Name.distinct names (operations.map (·.method)) = .ok told ∧
      told.length = operations.length ∧
      (fragments.operations.map (·.functionName)).Sublist told := by
  obtain ⟨translator, operations, told, s₁, s₂, s₃, s₄, s₅, steps⟩ := exists_steps returned
  obtain ⟨names, given, apart⟩ := except_bind_eq_ok.1 steps.named
  have long : told.length = operations.length := length_functionNames steps.named
  have kept := names_of_signatures steps.mapped
  rw [List.map_fst_zip (Nat.le_of_eq long)] at kept
  exact ⟨operations, names, told, steps.listed, given, apart, long, kept⟩

/-- Names are told apart exactly when no name with its counter is given otherwise; so
are then the functions of a client, and if none is given up, only then. -/
theorem functionNames_nodup_iff {names methods : List String}
    (paired : names.length = methods.length) :
    (∃ told, Name.distinct names methods = .ok told ∧
      (told.Nodup ↔ Name.CountersFree (Name.marked names methods))) ∧
    ∀ {document : Node} {configuration : Configuration} {s t : Session} {fragments : Fragments},
      Run.Returns (ofContract document configuration) s fragments t →
      ∃ operations given, Contract.operations document = .ok operations ∧
        givenNames operations = .ok given ∧
        (Name.CountersFree (Name.marked given (operations.map (·.method))) →
          (fragments.operations.map (·.functionName)).Nodup) ∧
        (fragments.operations.length = operations.length →
          (fragments.operations.map (·.functionName)).Nodup →
            Name.CountersFree (Name.marked given (operations.map (·.method)))) := by
  refine ⟨⟨_, Name.distinct_eq paired, Name.nodup_counted_iff⟩, ?_⟩
  intro document configuration s t fragments returned
  obtain ⟨operations, given, told, listed, named, apart, long, kept⟩ := names_of_ofContract returned
  have lengths : given.length = (operations.map (·.method)).length := by
    rw [List.length_map, length_givenNames named]
  have same : told = Name.appendCounters [] (Name.marked given (operations.map (·.method))) :=
    Except.ok.inj (apart.symm.trans (Name.distinct_eq lengths))
  refine ⟨operations, given, listed, named, fun free => ?_, fun all distinct => ?_⟩
  · have toldApart : told.Nodup := same ▸ Name.nodup_counted_iff.2 free
    exact toldApart.sublist kept
  · have whole : fragments.operations.map (·.functionName) = told := by
      refine kept.eq_of_length ?_
      rw [List.length_map, all, long]
    exact Name.nodup_counted_iff.1 (same ▸ whole ▸ distinct)

/-- A contract with an operation for each of some identifiers. -/
def contractOf (identifiers : List String) : Json :=
  .object [("paths", .object (identifiers.zipIdx.map fun (identifier, i) =>
    ("/" ++ toString i, .object [("get", .object [("operationId", .str identifier)])])))]

theorem functionNames_nodup_iff_pets :
    (∃ told, Name.distinct ["pets", "pets", "pets"] ["get", "get", "get"] = .ok told ∧ told.Nodup) ∧
    ∃ fragments t,
      Run.Returns (ofContract (.root 0 (contractOf ["pets", "pets", "pets"])) {}) {} fragments t ∧
        fragments.operations.length = 3 ∧
        (fragments.operations.map (·.functionName)).Nodup := by
  obtain ⟨⟨told, apart, distinct⟩, contracts⟩ :=
    @functionNames_nodup_iff ["pets", "pets", "pets"] ["get", "get", "get"] rfl
  constructor
  · exact ⟨told, apart, distinct.2 (by decide +kernel)⟩
  · have ok : ((ofContract (.root 0 (contractOf ["pets", "pets", "pets"])) {}).passes {}
        fun fragments _ => fragments.operations.length == 3) = true := by decide +kernel
    obtain ⟨fragments, t, returned, three⟩ := Run.exists_returns_of ok
    obtain ⟨operations, names, listed, given, free, -⟩ := contracts returned
    have listed' : (Contract.operations (.root 0 (contractOf ["pets", "pets", "pets"])) >>=
        fun operations => (·, operations.map (·.method)) <$> givenNames operations) =
        .ok (["pets", "pets", "pets"], ["get", "get", "get"]) := by rfl
    rw [listed] at listed'
    change (_ <$> givenNames operations) = _ at listed'
    rw [given] at listed'
    obtain ⟨rfl, methods⟩ := Prod.mk.inj (Except.ok.inj listed')
    refine ⟨fragments, t, returned, by simpa using three, free ?_⟩
    rw [methods]
    decide +kernel

/-- A name that is given may be another name with its counter. -/
theorem functionNames_repeat :
    (∃ told, Name.distinct ["a", "a", "a", "a_get_2"] ["get", "get", "get", "get"] = .ok told ∧
      ¬ told.Nodup) ∧
    ∃ fragments t,
      Run.Returns (ofContract (.root 0 (contractOf ["a", "a", "a", "a_get_2"])) {}) {} fragments t ∧
        ¬ (fragments.operations.map (·.functionName)).Nodup := by
  constructor
  · exact ⟨["a", "a_get", "a_get_2", "a_get_2"], by rfl, by decide⟩
  · have ok : ((ofContract (.root 0 (contractOf ["a", "a", "a", "a_get_2"])) {}).passes {}
        fun fragments _ => !decide (fragments.operations.map (·.functionName)).Nodup) = true := by
      decide +kernel
    obtain ⟨fragments, t, returned, again⟩ := Run.exists_returns_of ok
    exact ⟨fragments, t, returned, by simpa using again⟩

end Fragments

end TypedContract
