/-
# TypedContract.Proofs.Client.Scopes -- the names that a client binds

A client binds names in three kinds of scopes: those of its types beside what every client
has in its module, those of the fields in each record, and those of the parameters beside
`self` in each method.  Two of them are told apart wherever a client is made: types are
registered under different names, and parameters are kept once for each canonical name.
The others are taken over from the contract: a component may have a name of the module, two
properties of a record may have one canonical name, and a parameter may be called `self`.
Nothing else makes a client bind a name twice (`Fragments.scopesDistinct_iff`).
-/
import TypedContract.Client.Source
import TypedContract.Proofs.Fragments.Closed
import TypedContract.Proofs.Signature.Canonical

namespace TypedContract

set_option autoImplicit false

namespace Client

/-! ## Scopes -/

/-- The names that a line at the left margin of a module binds: what it imports, or the
class or function that it begins. -/
def boundNames (line : String) : List String :=
  match (Text.splitOnChar (· == ' ') line.toList).map String.ofList with
  | ["import", name] => [name]
  | "from" :: _ :: "import" :: names =>
      names.map fun name => String.ofList (name.toList.takeWhile (· != ','))
  | kind :: name :: _ =>
      if kind == "class" || kind == "def" then
        [String.ofList (name.toList.takeWhile fun c => c != '(' && c != ':')]
      else []
  | _ => []

/-- The names that the module of every client binds. -/
def sharedNames : List String := [
  "annotations", "dataclasses", "dataclass", "field", "Annotated", "Any", "NamedTuple",
  "Optional", "Union", "httpx", "Example", "Examples", "_encode"
]

/-- They are bound by the lines after the text of the heading. -/
theorem boundNames_shared (title : Json) (version : String) :
    ((heading title version).drop 4 ++ encoderLines).flatMap boundNames = sharedNames := by
  -- Unification knows the characters of a literal, where evaluation would decode its bytes.
  have read (chars : List Char) := boundNames.eq_1 (String.ofList chars)
  simp only [String.toList_ofList] at read
  simp only [heading, encoderLines, List.drop_succ_cons, List.drop_zero, List.cons_append,
    List.nil_append, List.flatMap_cons, List.flatMap_nil]
  repeat rw [read]
  decide +kernel

/-- The identifiers of the fields of a record. -/
def TypeBody.identifiers : TypeBody → List String
  | .record fields _ => fields.map (·.identifier)
  | .alias _ => []

/-- No name is bound twice in one scope of the client. -/
structure View.ScopesDistinct (view : View) : Prop where
  types : (view.types.map (·.name)).Nodup
  apart : ∀ type ∈ view.types, type.name ∉ view.clientName :: sharedNames
  fields : ∀ type ∈ view.types, type.body.identifiers.Nodup
  parameters : ∀ operation ∈ view.operations,
    ("self" :: operation.parameters.map (·.identifier)).Nodup

/-- The identifiers of a declared record are made from the names of its fields. -/
theorem identifiers_of_record {declared : TypeDeclaration} {name : Option String}
    {fields : List (Field Ty)} {text : String} (record : declared.type = .record name fields text) :
    (typeView declared).body.identifiers =
      (fields.map Field.name).map fun name => Name.identifier (Name.display name) := by
  simp only [typeView, record, TypeBody.identifiers, List.map_map, Function.comp_def, fieldView]

theorem identifiers_of_other {declared : TypeDeclaration}
    (other : ∀ name fields text, declared.type ≠ .record name fields text) :
    (typeView declared).body.identifiers = [] := by
  unfold typeView
  dsimp only
  split
  · rename_i name fields text record
    exact absurd record (other name fields text)
  · rfl

end Client

namespace Fragments

/-- The names taken over from the contract are apart: no type has a name of the module, no
two fields of a record have one canonical name, and no parameter is called `self`. -/
structure NamesApart (fragments : Fragments) (configuration : Configuration) : Prop where
  types : ∀ declared ∈ fragments.types,
    declared.name ∉ configuration.clientName :: Client.sharedNames
  fields : ∀ declared ∈ fragments.types, ∀ name fields text,
    declared.type = .record name fields text → ((fields.map Field.name).map Name.display).Nodup
  parameters : ∀ signature ∈ fragments.operations, ∀ p ∈ signature.parameters,
    Name.display p.name ≠ "self"

variable {document : Node} {configuration : Configuration} {s t : Session} {fragments : Fragments}

/-- Declarations have the names of the entries. -/
theorem names_of_declarations {schemas : Json} {entries : List (String × Ty)}
    {declared : List TypeDeclaration}
    (returned : Run.Returns
      (entries.mapM fun entry => declaration schemas entry.1 entry.2) s declared t) :
    declared.map (·.name) = entries.map Prod.fst := by
  induction entries generalizing s declared with
  | nil =>
      obtain ⟨rfl, rfl⟩ := Run.returns_pure.1 returned
      rfl
  | cons entry rest ih =>
      simp only [List.mapM_cons, Run.returns_bind, Run.returns_pure] at returned
      obtain ⟨first, u, head, others, v, tail, rfl, rfl⟩ := returned
      rw [List.map_cons, List.map_cons, ih tail, (returns_declaration head).1]

/-- No two types have one name, and every signature is canonical. -/
theorem canonical_of_ofContract (fresh : s.registry = {})
    (returned : Run.Returns (ofContract document configuration) s fragments t) :
    (fragments.types.map (·.name)).Nodup ∧
      ∀ signature ∈ fragments.operations, signature.Canonical := by
  obtain ⟨translator, operations, names, s₁, s₂, s₃, s₄, s₅, steps⟩ := exists_steps returned
  have sound := Translator.sound_create steps.created
  have first : s₁.registry.names.Nodup := by
    obtain ⟨-, -, reserved, -, rfl⟩ := Translator.returns_create steps.created
    rw [fresh]
    exact List.nodup_nil
  have second : s₂.registry.names.Nodup :=
    @Translator.components_induction translator s₁ s₂ (fun s => s.registry.names.Nodup) _
      (fun distinct own => (sound.component own).names_nodup distinct) steps.components first
  have third : s₃.registry.names.Nodup := (stays_signatures sound).stay steps.mapped second
  refine ⟨?_, canonical_of_signatures steps.mapped⟩
  rwa [names_of_declarations steps.declared, registry_of_forM_report steps.reported]

theorem names_view : (Client.view fragments configuration).types.map (·.name) =
    fragments.types.map (·.name) := by
  rw [Client.view, List.map_map]
  rfl

theorem identifiers_operationView {signature : Signature} :
    (Client.operationView signature).parameters.map (·.identifier) =
      signature.parameters.map (·.identifier) := by
  rw [Client.operationView, List.map_map]
  rfl

/-- Only a parameter that is displayed as `self` is bound as `self`. -/
theorem self_not_mem_identifiers_iff {signature : Signature} (canonical : signature.Canonical) :
    "self" ∉ signature.parameters.map (·.identifier) ↔
      ∀ p ∈ signature.parameters, Name.display p.name ≠ "self" := by
  rw [List.mem_map, not_exists]
  refine forall_congr' fun p => ?_
  rw [not_and]
  refine forall_congr' fun held => not_congr ?_
  have own := canonical.each p held
  rw [own.identifier, own.display]
  exact Name.identifier_eq_self_iff (Name.framed_display p.name)

/-- Types and parameters are told apart in every client; no name at all is bound twice in
one scope exactly when the names taken over from the contract are apart. -/
theorem scopesDistinct_iff (fresh : s.registry = {})
    (returned : Run.Returns (ofContract document configuration) s fragments t) :
    (fragments.types.map (·.name)).Nodup ∧
      (∀ signature ∈ fragments.operations, (signature.parameters.map (·.identifier)).Nodup) ∧
      ((Client.view fragments configuration).ScopesDistinct ↔
        fragments.NamesApart configuration) := by
  obtain ⟨distinct, canonical⟩ := canonical_of_ofContract fresh returned
  refine ⟨distinct, fun signature member => (canonical signature member).nodup_identifiers,
    fun scopes => ⟨fun declared member => ?_, fun declared member name fields text record => ?_,
      fun signature member => ?_⟩,
    fun apart => ⟨names_view ▸ distinct, fun type member => ?_, fun type member => ?_,
      fun operation member => ?_⟩⟩
  · exact scopes.apart (Client.typeView declared) (List.mem_map_of_mem member)
  · have own := scopes.fields (Client.typeView declared) (List.mem_map_of_mem member)
    rw [Client.identifiers_of_record record] at own
    exact Name.nodup_identifiers_iff.1 own
  · have own := scopes.parameters (Client.operationView signature) (List.mem_map_of_mem member)
    rw [List.nodup_cons, identifiers_operationView] at own
    exact (self_not_mem_identifiers_iff (canonical signature member)).1 own.1
  · obtain ⟨declared, held, rfl⟩ := List.mem_map.1 member
    exact apart.types declared held
  · obtain ⟨declared, held, rfl⟩ := List.mem_map.1 member
    by_cases record : ∃ name fields text, declared.type = .record name fields text
    · obtain ⟨name, fields, text, record⟩ := record
      rw [Client.identifiers_of_record record]
      exact Name.nodup_identifiers_iff.2 (apart.fields declared held name fields text record)
    · rw [Client.identifiers_of_other fun name fields text same => record ⟨name, fields, text, same⟩]
      exact List.nodup_nil
  · obtain ⟨signature, held, rfl⟩ := List.mem_map.1 member
    rw [List.nodup_cons, identifiers_operationView]
    exact ⟨(self_not_mem_identifiers_iff (canonical signature held)).2 (apart.parameters signature held),
      (canonical signature held).nodup_identifiers⟩

theorem scopesDistinct_iff_node : ∃ fragments t,
    Run.Returns (ofContract (.root 0 nodeContract) {}) {} fragments t ∧
    (fragments.types.map (·.name)).Nodup ∧
    (∀ signature ∈ fragments.operations, (signature.parameters.map (·.identifier)).Nodup) ∧
    ((Client.view fragments {}).ScopesDistinct ↔ fragments.NamesApart {}) := by
  have ok : ((ofContract (.root 0 nodeContract) {}).passes {} fun _ _ => true) = true := by
    decide +kernel
  obtain ⟨fragments, t, returned⟩ := Run.exists_returns ok
  exact ⟨fragments, t, returned, scopesDistinct_iff rfl returned⟩

/-- An operation with a parameter called `self`. -/
def selfContract : Json :=
  .object [("paths", .object [("/pets", .object [("get", .object [("parameters", .list [.object [
    ("name", .str "self"), ("in", .str "query"),
    ("schema", .object [("type", .str "string")])]])])])])]

/-- The method of the operation has two parameters `self`. -/
theorem scopes_repeat_self : ∃ fragments t,
    Run.Returns (ofContract (.root 0 selfContract) {}) {} fragments t ∧
    ¬ (Client.view fragments {}).ScopesDistinct := by
  have ok : ((ofContract (.root 0 selfContract) {}).passes {} fun fragments _ =>
      (Client.view fragments {}).operations.any fun operation =>
        operation.parameters.any fun p => p.identifier == "self") = true := by decide +kernel
  obtain ⟨fragments, t, returned, named⟩ := Run.exists_returns_of ok
  refine ⟨fragments, t, returned, fun scopes => ?_⟩
  obtain ⟨operation, member, named⟩ := List.any_eq_true.1 named
  obtain ⟨p, held, named⟩ := List.any_eq_true.1 named
  refine (List.nodup_cons.1 (scopes.parameters operation member)).1 ?_
  exact List.mem_map.2 ⟨p, held, eq_of_beq named⟩

end Fragments

end TypedContract
