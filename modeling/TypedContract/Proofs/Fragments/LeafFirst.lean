/-
# TypedContract.Proofs.Fragments.LeafFirst -- declarations come after those they refer to

When the components point to one another without cycles, registering them leaves the
entries leaf first with all components registered (`Translator.resting_components`).  From
then on no component is entered any more, so whatever schema an operation translates, in
whatever document it stands, leads only to what is below it
(`Translator.resting_translateNode`).  An operation that is given up leaves the entries of
its beginning (`outlasting_resting`).  The declarations have the order of the entries
(`ofContract_leafFirst`).
-/
import TypedContract.Proofs.Fragments.Closed
import TypedContract.Proofs.Signature.Keeping
import TypedContract.Proofs.Translation.LeafFirst
import TypedContract.Proofs.Translation.Order

namespace TypedContract

set_option autoImplicit false

open Schema Translation

/-! ## Between translations -/

/-- The session is layered and nothing is in progress. -/
structure Resting (schemas : Node) (opens : String → Prop) (s : Session) : Prop where
  layered : Layered schemas opens s
  idle : s.registry.building = []

namespace Resting

variable {schemas : Node} {opens : String → Prop} {s t : Session}

/-- The entries between translations are closed. -/
theorem closed (rests : Resting schemas opens s) : s.registry.Closed := by
  have same : s.registry.atRest = s.registry :=
    congrArg (fun building => { s.registry with building := building }) rests.idle.symm
  exact same ▸ rests.layered.ordered.closed

/-- Once all components are registered, none need be entered. -/
theorem shut (rests : Resting schemas opens s)
    (complete : ∀ name, schemas.value.holds name = .ok true →
      ∃ type, s.registry.get? name = some type) :
    Resting schemas (fun _ => False) s :=
  ⟨⟨rests.layered.ordered, rests.layered.waiting, rests.layered.reserves, rests.layered.free,
    fun name held => .inr (complete name held)⟩, rests.idle⟩

end Resting

/-- Dropping what an operation registered leaves the places that were given names. -/
theorem outlasting_resting {schemas : Node} {opens : String → Prop} :
    Outlasting (Resting schemas opens) where
  noted := fun rests registry hoisted =>
    ⟨rests.layered.noted registry hoisted, registry ▸ rests.idle⟩
  dropped := by
    intro s t rests grows after
    refine ⟨⟨rests.layered.ordered, rests.layered.waiting, rests.layered.reserves, ?_,
      rests.layered.complete⟩, rests.idle⟩
    intro given member
    have free := after.layered.free given member
    rwa [grows.reserved] at free

namespace Translator

variable {number : Nat} {contract : Json} {translator : Translator} {s t u : Session}

/-! ## Components -/

theorem resting_create (fresh : s.registry = {}) (new : s.hoisted = [])
    (created : Run.Returns (create (.root number contract)) s translator t)
    (object : ∃ entries, translator.schemas.value = .object entries) :
    Resting translator.schemas (fun _ => True) t := by
  obtain ⟨empty, idle, hoisted⟩ := empty_create fresh created
  refine ⟨⟨?_, ?_, reserves_create created object, ?_, fun name _ => .inl trivial⟩, idle⟩
  · intro before entry after split
    rw [empty] at split
    exact absurd split (by simp)
  · intro name member
    rw [idle] at member
    cases member
  · intro given member
    rw [hoisted, new] at member
    cases member

/-- Components that point to one another without cycles are registered leaf first. -/
theorem resting_components {done : Unit} (fresh : s.registry = {}) (new : s.hoisted = [])
    (created : Run.Returns (create (.root number contract)) s translator t)
    (registered : Run.Returns translator.components t done u)
    (acyclic : Acyclic translator.schemas) :
    Resting translator.schemas (fun _ => False) u := by
  have sound : translator.ties.Sound translator.schemas := sound_create created
  have object := object_of_components created registered
  have document : translator.schemas.Stands number contract :=
    Contract.stands_schemas Node.stands_root (returns_create created).1
  have descent : Descent translator.schemas (fun _ => True) (·.IsPartOf number contract) :=
    descent_isPartOf document acyclic
  have rests : Resting translator.schemas (fun _ => True) u := by
    refine components_induction (fun {name s type t} rests returned => ?_) registered
      (resting_create fresh new created object)
    have derived := sound.component returned
    have absent : name ∉ s.registry.building := by
      rw [rests.idle]
      exact List.not_mem_nil
    have ready : (Judgement.component name s type t).Ready translator.schemas (fun _ => True)
        (·.IsPartOf number contract) :=
      ⟨absent, fun schema _ parsed => ⟨descent.component trivial parsed, clear_of_idle rests.idle⟩⟩
    obtain ⟨layered, -⟩ := derived.layered descent ready rests.layered (by simp [Judgement.given])
    exact ⟨layered, derived.grows.building.trans rests.idle⟩
  exact rests.shut fun name held => registered_components sound object registered rests.idle held

/-- With all components registered, a schema in any document may be translated. -/
theorem resting_translateNode (sound : translator.ties.Sound translator.schemas) {node : Node}
    {context : String} :
    Run.Keeps (Resting translator.schemas fun _ => False) (translator.translateNode node context) := by
  refine ⟨fun {s t type} returned rests => ?_⟩
  obtain ⟨schema, parsed, derived⟩ := derives_translateNode sound returned
  have ready : Ready translator.schemas (fun _ => False) (fun schema => ∃ node, Parsed node schema)
      s schema := ⟨⟨node, .of_parse parsed⟩, clear_of_idle rests.idle⟩
  obtain ⟨layered, -⟩ :=
    derived.layered descent_parsed ready rests.layered (by simp [Judgement.given])
  exact ⟨derived.grows, layered, derived.grows.building.trans rests.idle⟩

end Translator

namespace Fragments

variable {number : Nat} {contract : Json} {configuration : Configuration} {s t : Session}
  {fragments : Fragments}

/-! ## Declarations -/

/-- Declarations in the order of entries that are leaf first refer to earlier ones. -/
theorem exists_earlier {registry : Registry} {types before after : List TypeDeclaration}
    {declared : TypeDeclaration} (ordered : registry.LeafFirst)
    (entries : types.map (fun declared => (declared.name, declared.type)) = registry.entries)
    (split : types = before ++ declared :: after) {name : String}
    (inside : name ∈ declared.type.references) : ∃ earlier ∈ before, earlier.name = name := by
  subst split
  rw [List.map_append, List.map_cons] at entries
  have member := ordered _ (declared.name, declared.type) _ entries.symm name inside
  rw [List.map_map] at member
  exact List.mem_map.1 member

/-- When the components point to one another without cycles, the types are declared leaf
first: every reference at any depth inside a declaration names an earlier one. -/
theorem ofContract_leafFirst {schemas : Node} (fresh : s.registry = {}) (new : s.hoisted = [])
    (found : Contract.schemas (.root number contract) = .ok schemas) (acyclic : Acyclic schemas)
    (returned : Run.Returns (ofContract (.root number contract) configuration) s fragments t) :
    ∀ before declared after, fragments.types = before ++ declared :: after →
      ∀ name ∈ declared.type.references, ∃ earlier ∈ before, earlier.name = name := by
  obtain ⟨translator, operations, names, s₁, s₂, s₃, s₄, s₅, steps⟩ := exists_steps returned
  have sound : translator.ties.Sound translator.schemas := Translator.sound_create steps.created
  obtain rfl : translator.schemas = schemas :=
    Except.ok.inj ((Translator.returns_create steps.created).1.symm.trans found)
  have components : Resting translator.schemas (fun _ => False) s₂ :=
    Translator.resting_components fresh new steps.created steps.components acyclic
  have operations : Resting translator.schemas (fun _ => False) s₃ :=
    ((keeps_signatures outlasting_resting (Translator.resting_translateNode sound)).keep
      steps.mapped components).2
  have same : s₄.registry = s₃.registry := registry_of_forM_report steps.reported
  have declared := steps.declared
  have closed : s₄.registry.Closed := same ▸ operations.closed
  obtain ⟨-, entries⟩ := returns_declarations closed declared
  rw [same] at entries
  intro before declared after split name inside
  exact exists_earlier operations.layered.ordered entries split inside

/-- A pet with an inline tag that names its owner, an operation that hoists its request and
one that is given up after it has registered a record. -/
def petContract : Json :=
  .object [
    ("paths", .object [
      ("/pets", .object [("post", .object [("requestBody", .object [("content", .object [
        ("application/json", .object [("schema", record "pet" (reference "Pet"))])])])])]),
      ("/pets/{key}", .object [("get", .object [("parameters", .list [.object [
        ("name", .str "key"), ("in", .str "path"),
        ("schema", record "pet" (reference "Pet"))]])])])]),
    ("components", .object [("schemas", components)])]
where
  /-- A reference to a component. -/
  reference (name : String) : Json := .object [("$ref", .str (Schema.componentPath ++ name))]
  /-- An object with one property. -/
  record (name : String) (property : Json) : Json :=
    .object [("type", .str "object"), ("properties", .object [(name, property)])]
  /-- A component and one that it points to, which is listed after it. -/
  components : Json := .object [
    ("Pet", record "tag" (record "owner" (reference "Owner"))),
    ("Owner", record "name" (.object [("type", .str "string")]))]

/-- The component schemas of that document. -/
def petSchemas : Node := ⟨petContract.components, some ⟨0, [1, 0]⟩⟩

theorem acyclic_petSchemas : Acyclic petSchemas :=
  acyclic_of_rank (fun name => if name = "Pet" then 1 else 0) (by decide +kernel)

theorem ofContract_leafFirst_pet : ∃ fragments t,
    Contract.schemas (.root 0 petContract) = .ok petSchemas ∧ Acyclic petSchemas ∧
    Run.Returns (ofContract (.root 0 petContract) {}) {} fragments t ∧
    fragments.types.map (·.name) = ["Owner", "PetTag", "Pet", "CreatePetRequest"] ∧
    ∀ before declared after, fragments.types = before ++ declared :: after →
      ∀ name ∈ declared.type.references, ∃ earlier ∈ before, earlier.name = name := by
  have found : Contract.schemas (.root 0 petContract) = .ok petSchemas := rfl
  have ok : ((ofContract (.root 0 petContract) {}).passes {} fun fragments _ =>
      fragments.types.map (·.name) == ["Owner", "PetTag", "Pet", "CreatePetRequest"]) = true := by
    decide +kernel
  obtain ⟨fragments, t, returned, named⟩ := Run.exists_returns_of ok
  exact ⟨fragments, t, found, acyclic_petSchemas, returned, eq_of_beq named,
    ofContract_leafFirst rfl rfl found acyclic_petSchemas returned⟩

end Fragments

end TypedContract
