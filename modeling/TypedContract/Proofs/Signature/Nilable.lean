/-
# TypedContract.Proofs.Signature.Nilable -- parameters that may be nothing

A type leads to nothing when it is the type of nothing, lists such a type or refers to one;
`Ty.LeadsToNil` keeps the names of the references on the way.  What decides whether a
parameter may be left out looks at the type alone, so it sees nothing only where no
reference is on the way (`Ty.isNilable_iff`).

With the option on, a query or header parameter is therefore optional when its type lists
nothing in place, and not when only a component that it refers to does
(`SignatureBuilder.required_iff_of_build`).  Such a parameter may be nothing and stays
required (`SignatureBuilder.nilable_required`).
-/
import TypedContract.Proofs.Signature.Origins

namespace TypedContract

set_option autoImplicit false

/-! ## Ways to nothing -/

namespace Ty

variable {registry : Registry} {type : Ty} {names : List String}

/-- The names lead from a type to the type of nothing, through unions and references. -/
inductive LeadsToNil (registry : Registry) : List String → Ty → Prop where
  | nil {type : Ty} (isNil : type.isNil = true) : LeadsToNil registry [] type
  | union {name : Option String} {members : List Ty} {member : Ty} {names : List String}
      (among : member ∈ members) (leads : LeadsToNil registry names member) :
      LeadsToNil registry names (.union name members)
  | reference {name : String} {type : Ty} {names : List String}
      (registered : registry.get? name = some type) (leads : LeadsToNil registry names type) :
      LeadsToNil registry (name :: names) (.reference name)

theorem anyNilable_iff {types : List Ty} :
    anyNilable types = true ↔ ∃ type ∈ types, type.isNilable = true := by
  induction types with
  | nil => exact iff_of_false Bool.false_ne_true fun ⟨_, inside, _⟩ => List.not_mem_nil inside
  | cons first rest ih =>
      simp only [anyNilable, Bool.or_eq_true, ih, List.mem_cons, exists_eq_or_imp]

mutual

theorem leadsToNil_of_isNilable : ∀ {type : Ty}, type.isNilable = true →
    LeadsToNil registry [] type
  | .primitive _, nilable => .nil nilable
  | .union _ _, nilable =>
      have ⟨_, among, leads⟩ := exists_leadsToNil_of_anyNilable nilable
      .union among leads

theorem exists_leadsToNil_of_anyNilable : ∀ {types : List Ty}, anyNilable types = true →
    ∃ type ∈ types, LeadsToNil registry [] type
  | first :: rest, nilable => by
      rw [anyNilable, Bool.or_eq_true] at nilable
      rcases nilable with own | others
      · exact ⟨first, List.mem_cons_self, leadsToNil_of_isNilable own⟩
      · obtain ⟨type, among, leads⟩ := exists_leadsToNil_of_anyNilable others
        exact ⟨type, List.mem_cons_of_mem first among, leads⟩

end

theorem isNilable_of_isNil (isNil : type.isNil = true) : type.isNilable = true := by
  cases type with
  | primitive p => exact isNil
  | _ => cases isNil

/-- A type lists nothing in place when it leads there without a reference. -/
theorem isNilable_iff : type.isNilable = true ↔ type.LeadsToNil registry [] := by
  refine ⟨leadsToNil_of_isNilable, fun leads => ?_⟩
  generalize none : ([] : List String) = names at leads
  induction leads with
  | nil isNil => exact isNilable_of_isNil isNil
  | union among _ ih => exact anyNilable_iff.2 ⟨_, among, ih none⟩
  | reference => cases none

theorem isNilable_withNil {nullable : Bool} :
    (Translation.withNil nullable type).isNilable = (nullable || type.isNilable) := by
  unfold Translation.withNil
  cases nullable with
  | false => rfl
  | true =>
      cases own : type.isNilable with
      | true => exact own
      | false => exact anyNilable_iff.2 ⟨Ty.nil, by simp, rfl⟩

end Ty

namespace SignatureBuilder

variable {builder : SignatureBuilder} {functionName method path : String}
  {operation shared : Node} {s t : Session}

/-! ## Required parameters -/

/-- A query or header parameter of a signature stands for a declared parameter or a header
of the body's encoding.  With the option on, it is optional exactly when its type lists
nothing in place, its part of the contract does not ask for it, or a default is kept; with
the option off and no default, it is required exactly when its part asks for it. -/
theorem required_iff_of_build {signature : Signature}
    (returned : Run.Returns (builder.build functionName method path operation shared) s
      (some signature) t) :
    ∃ origins, builder.origins operation shared = .ok origins ∧
      ∀ p ∈ signature.parameters, p.kind = .query ∨ p.kind = .header →
        ∃ node, Origin.located p.kind node ∈ origins ∧
          builder.StandsFor (Name.pascal functionName) p.kind node p ∧
          (builder.configuration.treatNilableAsOptional = true →
            (p.required = false ↔ p.type.LeadsToNil t.registry [] ∨
              (node.value.under "required").truthy = false ∨ p.default.isNull = false)) ∧
          (builder.configuration.treatNilableAsOptional = false → p.default.isNull = true →
            (p.required = true ↔ (node.value.under "required").truthy = true)) := by
  obtain ⟨parameters, body, candidates, declares, makes, arranged⟩ :=
    exists_origins_of_build returned
  refine ⟨_, declares.origins, fun p member located => ?_⟩
  rw [arranged, Parameter.mem_requiredFirst] at member
  obtain ⟨origin, inside, made⟩ :=
    exists_of_forall₂_right makes (Parameter.mem_of_mem_firsts member)
  have noPath : (p.kind == .path) = false := by
    rcases located with kind | kind <;> rw [kind] <;> rfl
  cases origin with
  | payload body =>
      have kind : p.kind = .payload := made.kind
      rw [kind] at located
      rcases located with other | other <;> cases other
  | located kind node =>
      have made : builder.StandsFor (Name.pascal functionName) kind node p := made
      obtain rfl : p.kind = kind := made.kind
      have required := made.required
      rw [noPath, Bool.false_or] at required
      refine ⟨node, inside, made, fun on => ?_, fun off unset => ?_⟩
      · rw [required, on, ← Ty.isNilable_iff]
        cases p.type.isNilable <;> cases p.default.isNull <;>
          cases (node.value.under "required").truthy <;> simp
      · rw [required, off, unset, Bool.and_true, Bool.false_and, Bool.not_false, Bool.and_true]

/-! ## A parameter that stays required -/

/-- Two parameters that are asked for and may be nothing: one says so in place, the other
refers to a component that does. -/
def nilableContract : Json := .object [
    ("paths", .object [("/pets", .object [("get", .object [("parameters", .list [
      parameter "note" nilableText,
      parameter "tag" (.object [("$ref", .str "#/components/schemas/Tag")])])])])]),
    ("components", .object [("schemas", .object [("Tag", nilableText)])])]
where
  /-- A text that may be nothing. -/
  nilableText : Json := .object [("type", .str "string"), ("nullable", .bool true)]
  /-- A query parameter that is asked for. -/
  parameter (name : String) (schema : Json) : Json :=
    .object [("name", .str name), ("in", .str "query"), ("required", .bool true),
      ("schema", schema)]

theorem required_iff_of_build_nilable : ∃ (builder : SignatureBuilder) (s t : Session)
    (signature : Signature),
    builder.configuration.treatNilableAsOptional = true ∧
    Run.Returns (builder.build "listPets" "get" "/pets"
      (operationAt (.root 0 nilableContract) "/pets" "get")
      (sharedAt (.root 0 nilableContract) "/pets")) s (some signature) t ∧
    signature.parameters.map (fun p => (p.name, p.required)) = [("tag", true), ("note", false)] ∧
    ∃ origins, builder.origins (operationAt (.root 0 nilableContract) "/pets" "get")
        (sharedAt (.root 0 nilableContract) "/pets") = .ok origins ∧
      ∀ p ∈ signature.parameters, p.kind = .query ∨ p.kind = .header →
        ∃ node, Origin.located p.kind node ∈ origins ∧
          builder.StandsFor (Name.pascal "listPets") p.kind node p ∧
          (builder.configuration.treatNilableAsOptional = true →
            (p.required = false ↔ p.type.LeadsToNil t.registry [] ∨
              (node.value.under "required").truthy = false ∨ p.default.isNull = false)) ∧
          (builder.configuration.treatNilableAsOptional = false → p.default.isNull = true →
            (p.required = true ↔ (node.value.under "required").truthy = true)) := by
  have ok : ((buildAt (.root 0 nilableContract) "listPets" "/pets" "get"
      { treatNilableAsOptional := true }).passes {} fun found _ => found.2.any fun signature =>
        signature.parameters.map (fun p => (p.name, p.required)) ==
          [("tag", true), ("note", false)]) = true := by decide +kernel
  obtain ⟨builder, s, t, signature, -, configured, returned, listed⟩ := exists_build_of ok
  exact ⟨builder, s, t, signature, by rw [configured], returned, eq_of_beq listed,
    required_iff_of_build returned⟩

/-- The type is a reference to one that lists nothing. -/
def refersToNilable (registry : Registry) : Ty → Bool
  | .reference name => (registry.get? name).any Ty.isNilable
  | _ => false

theorem exists_leadsToNil_of_refersToNilable {registry : Registry} {type : Ty}
    (refers : refersToNilable registry type = true) : ∃ names, type.LeadsToNil registry names := by
  cases type with
  | reference name =>
      obtain ⟨found, registered, nilable⟩ := (Option.any_eq_true ..).1 refers
      exact ⟨[name], .reference registered (Ty.isNilable_iff.1 nilable)⟩
  | _ => cases refers

/-- With the option on, a parameter is required although its type leads to nothing. -/
theorem nilable_required : ∃ (builder : SignatureBuilder) (s t : Session) (signature : Signature)
    (p : Parameter) (names : List String),
    builder.configuration.treatNilableAsOptional = true ∧
    Run.Returns (builder.build "listPets" "get" "/pets"
      (operationAt (.root 0 nilableContract) "/pets" "get")
      (sharedAt (.root 0 nilableContract) "/pets")) s (some signature) t ∧
    p ∈ signature.parameters ∧ p.kind = .query ∧ p.type.LeadsToNil t.registry names ∧
    p.required = true := by
  have ok : ((buildAt (.root 0 nilableContract) "listPets" "/pets" "get"
      { treatNilableAsOptional := true }).passes {} fun found t => found.2.any fun signature =>
        signature.parameters.any fun p =>
          p.kind == .query && refersToNilable t.registry p.type && p.required) = true := by
    decide +kernel
  obtain ⟨builder, s, t, signature, -, configured, returned, listed⟩ := exists_build_of ok
  simp only [List.any_eq_true, Bool.and_eq_true, beq_iff_eq] at listed
  obtain ⟨p, member, ⟨kind, refers⟩, required⟩ := listed
  obtain ⟨names, leads⟩ := exists_leadsToNil_of_refersToNilable refers
  exact ⟨builder, s, t, signature, p, names, by rw [configured], returned, member, kind, leads,
    required⟩

end SignatureBuilder

end TypedContract
