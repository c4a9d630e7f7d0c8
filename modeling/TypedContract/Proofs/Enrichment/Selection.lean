/-
# TypedContract.Proofs.Enrichment.Selection -- one parameter for both directions

A parameter of a signature is made from one object of the contract.  The mapper of examples
looks for the object of a name by itself, and it means the same one only under a condition:
an entry of the lists stands for the object in one step, and none before it is a rival, the
operation's own entries being asked first (`selects_iff_of_build`).

The builder goes another way in three respects.  It follows a chain of references to its
end; it asks the path first and lets the later of two parameters of one name and location
count; and it reads the headers of encodings.  Each of them can lead to another object than
the mapper's: a chain of two references does (`chain_not_selected`).
-/
import TypedContract.Proofs.Contract.Change
import TypedContract.Proofs.Enrichment.Finding
import TypedContract.Proofs.Signature.Arrangement

namespace TypedContract

set_option autoImplicit false

namespace SignatureBuilder

open Enrichment

variable {builder : SignatureBuilder} {functionName method path : String}
  {operation shared : Node} {s t : Session} {contract : Json}

/-! ## Entries of a list -/

theorem entered_of_plain {document raw : Node} (plain : raw.value.holds "$ref" = .ok false) :
    entered document raw = .ok (some raw) := by
  rw [entered, plain]
  rfl

theorem entered_of_reference {document raw ref next : Node}
    (refers : raw.value.holds "$ref" = .ok true) (required : raw.required "$ref" = .ok ref)
    (led : Pointer.resolve document ref.value = .ok next) :
    entered document raw = .ok (if next.value.isNull then none else some next) := by
  rw [entered, refers, except_ok_bind, if_pos rfl, referred, Node.value_of_required required,
    except_ok_bind, led]
  rfl

/-- What the builder resolves to an object stands for an object. -/
theorem exists_entered_of_resolve {raw node : Node} (resolved : builder.resolve raw = .ok node)
    {entries : List (String × Json)} (object : node.value = .object entries) :
    ∃ part, entered builder.document raw = .ok (some part) ∧
      ∃ entries, part.value = .object entries := by
  rcases resolveWithin_cases resolved with ⟨plain, rfl⟩ | ⟨ref, next, refers, required, led, rest⟩
  · exact ⟨node, entered_of_plain plain, entries, object⟩
  · obtain ⟨inner, isObject⟩ := isObject_of_resolveWithin rest object
    refine ⟨next, ?_, inner, isObject⟩
    rw [entered_of_reference refers required led, isObject]
    rfl

/-- Every entry of a list that is resolved to objects stands for an object. -/
theorem exists_parts_of_resolved {raws parameters : List Node}
    (resolved : List.Forall₂ (fun raw node => builder.resolve raw = .ok node) raws parameters)
    (objects : ∀ node ∈ parameters, ∃ entries, node.value = .object entries) :
    ∃ parts, List.Forall₂ (fun raw part => entered builder.document raw = .ok (some part))
        raws parts ∧ ∀ part ∈ parts, ∃ entries, part.value = .object entries := by
  induction resolved with
  | nil => exact ⟨[], .nil, nofun⟩
  | cons first rest ih =>
      obtain ⟨⟨entries, object⟩, others⟩ := List.forall_mem_cons.1 objects
      obtain ⟨part, entering, isObject⟩ := exists_entered_of_resolve first object
      obtain ⟨parts, further, areObjects⟩ := ih others
      exact ⟨part :: parts, .cons entering further, List.forall_mem_cons.2 ⟨isObject, areObjects⟩⟩

/-- The entries in the order in which the mapper asks them. -/
def entriesOf (operation shared : Node) : List Node :=
  (operation.under "parameters").items ++ shared.items

theorem DeclaresParameters.exists_parts {parameters : List Node} {body : List Origin}
    (declares : builder.DeclaresParameters operation shared parameters body) :
    ∃ parts, List.Forall₂ (fun raw part => entered builder.document raw = .ok (some part))
        (entriesOf operation shared) parts ∧
      ∀ part ∈ parts, ∃ entries, part.value = .object entries := by
  obtain ⟨above, own, rfl, first, rest⟩ :=
    exists_append_of_forall₂ (mapM_eq_ok_iff.1 declares.resolved)
  obtain ⟨isAbove, isOwn⟩ := List.forall_mem_append.1 declares.objects
  exact exists_parts_of_resolved (List.rel_append rest first)
    (List.forall_mem_append.2 ⟨isOwn, isAbove⟩)

/-! ## The origin of a parameter -/

/-- The origin has the canonical name. -/
def Origin.TakesName (display : String) : Origin → Prop
  | .located _ node => ∃ name, node.value.under "name" = .str name ∧ Name.display name = display
  | .payload _ => payloadName = display

theorem Origin.Makes.takesName {context : String} {origin : Origin} {p : Parameter}
    (made : origin.Makes builder context p) : origin.TakesName p.display := by
  cases origin with
  | located kind node => exact ⟨p.name, made.name, made.canonical.display.symm⟩
  | payload body =>
      have canonical : payloadName = Name.display payloadName := by decide +kernel
      rw [TakesName, made.canonical.display, made.name]
      exact canonical

theorem Origin.TakesName.unique {origin : Origin} {display display' : String}
    (takes : origin.TakesName display) (takes' : origin.TakesName display') :
    display = display' := by
  cases origin with
  | located kind node =>
      obtain ⟨name, named, rfl⟩ := takes
      obtain ⟨name', named', rfl⟩ := takes'
      rw [Json.str.inj (named.symm.trans named')]
  | payload body => exact takes.symm.trans takes'

/-- The parameter stands for the node, the first of its canonical name among the origins. -/
structure ComesFrom (builder : SignatureBuilder) (context : String) (origins : List Origin)
    (node : Node) (p : Parameter) : Prop where
  stands : builder.StandsFor context p.kind node p
  first : ∃ before after, origins = before ++ .located p.kind node :: after ∧
    ∀ origin ∈ before, ¬ origin.TakesName p.display

theorem exists_comesFrom {context : String} {origins : List Origin} {candidates : List Parameter}
    {p : Parameter} (makes : List.Forall₂ (Origin.Makes builder context) origins candidates)
    (kept : p ∈ Parameter.firsts candidates) (other : p.kind ≠ .payload) :
    ∃ node, builder.ComesFrom context origins node p := by
  obtain ⟨front, back, rfl, apart⟩ := Parameter.mem_firsts_iff.1 kept
  obtain ⟨before, rest, rfl, earlier, later⟩ := exists_append_of_forall₂ makes.flip
  cases later with
  | @cons _ origin _ after made _ =>
      have free : ∀ origin ∈ before, ¬ origin.TakesName p.display := by
        intro origin member takes
        obtain ⟨q, held, made⟩ := exists_of_forall₂_right earlier member
        exact apart q held (Origin.Makes.takesName made |>.unique takes)
      cases origin with
      | located kind node =>
          obtain rfl : p.kind = kind := made.kind
          exact ⟨node, made, before, after, rfl, free⟩
      | payload body => exact absurd made.kind other

/-! ## Origins as the mapper reads them -/

theorem holds_of_resolveWithin {document raw node : Node} {seen : List Json} {bound : Nat}
    (resolved : resolveWithin document seen bound raw = .ok node) :
    node.value.holds "$ref" = .ok false := by
  induction bound generalizing seen raw with
  | zero => cases resolved
  | succ bound ih =>
      rcases resolveWithin_cases resolved with ⟨plain, rfl⟩ | ⟨ref, next, -, -, -, rest⟩
      · exact plain
      · exact ih rest

/-- A part that is no reference is the end of the chain that leads to it. -/
theorem resolve_eq_of_entered {raw part node : Node}
    (entering : entered builder.document raw = .ok (some part))
    (plain : part.value.holds "$ref" = .ok false) (resolved : builder.resolve raw = .ok node) :
    node = part := by
  rcases resolveWithin_cases resolved with ⟨own, rfl⟩ | ⟨ref, next, refers, required, led, rest⟩
  · rw [entered_of_plain own] at entering
    cases entering
    rfl
  · rw [entered_of_reference refers required led] at entering
    split at entering
    · cases entering
    · cases entering
      -- the allowance is the weight of the contract and two more, so one step is left
      rcases resolveWithin_cases rest with ⟨-, same⟩ | ⟨-, -, again, -⟩
      · exact same
      · cases plain.symm.trans again

section

variable {parameters : List Node} {body : List Origin} {node : Node} {kind : ParameterKind}

/-- What a header is resolved to, under its own name. -/
theorem exists_header_of_mem_body (found : builder.bodyOrigins operation = .ok body)
    (member : .located kind node ∈ body) :
    kind = .header ∧ ∃ raw header name, builder.resolve raw = .ok header ∧
      namedHeader header name = .ok node := by
  obtain ⟨-, rfl⟩ | ⟨payload, rest, -, rfl, -⟩ := cases_of_bodyOrigins found
  · cases member
  · unfold bodyOrigins at found
    dsimp only at found
    split at found
    · cases found
    · obtain ⟨body, -, found⟩ := except_bind_eq_ok.1 found
      obtain ⟨others, mapped, found⟩ := except_bind_eq_ok.1 found
      cases found
      rcases List.mem_cons.1 member with same | member
      · cases same
      · obtain ⟨header, -, made⟩ := exists_of_forall₂_right (mapM_eq_ok_iff.1 mapped) member
        obtain ⟨resolved, led, made⟩ := except_bind_eq_ok.1 made
        obtain ⟨named, renamed, made⟩ := except_bind_eq_ok.1 made
        cases made
        exact ⟨rfl, _, resolved, _, led, renamed⟩

/-- A header under its own name is located in the header and is no reference. -/
theorem object_of_namedHeader {header : Node} {name : String}
    (plain : header.value.holds "$ref" = .ok false) (named : namedHeader header name = .ok node) :
    (∃ entries, node.value = .object entries) ∧ node.value.under "in" = .str "header" ∧
      node.value.under "name" = .str name ∧ node.value.holds "$ref" = .ok false := by
  unfold namedHeader at named
  split at named
  · rename_i entries object
    cases named
    refine ⟨⟨_, rfl⟩, ?_, ?_, ?_⟩
    · rw [Json.under, Json.held, Json.find?_put]
      rfl
    · rw [Json.under, Json.held, Json.find?_put_of_ne (by decide), Json.find?_put]
      rfl
    · rw [object, Json.holds] at plain
      rw [Json.holds, Json.find?_put_of_ne (by decide), Json.find?_put_of_ne (by decide)]
      exact plain
  · cases named

/-- Each located origin is an object at its location. -/
theorem object_of_mem_origins
    (declares : builder.DeclaresParameters operation shared parameters body)
    (member : .located kind node ∈ located (inForce parameters) ++ body) :
    (∃ entries, node.value = .object entries) ∧ node.value.under "in" = .str kind.word := by
  rcases List.mem_append.1 member with member | member
  · obtain ⟨other, inside, same⟩ := List.mem_map.1 member
    obtain ⟨inForce, known⟩ := List.mem_filter.1 inside
    cases same
    exact ⟨declares.objects node (mem_of_mem_inForce inForce),
      under_in_of_location rfl (bne_iff_ne.1 known)⟩
  · obtain ⟨rfl, raw, header, name, led, named⟩ := exists_header_of_mem_body declares.body member
    obtain ⟨object, located, -⟩ := object_of_namedHeader (holds_of_resolveWithin led) named
    exact ⟨object, located⟩

/-- What a list begins with comes before a member that it does not have. -/
theorem mem_and_subset_of_split {α : Type} {xs ys before after : List α} {x : α}
    (split : xs ++ ys = before ++ x :: after) (elsewhere : x ∉ xs) : x ∈ ys ∧ xs ⊆ before := by
  rcases List.append_eq_append_iff.1 split with ⟨rest, rfl, rfl⟩ | ⟨rest, same, split⟩
  · exact ⟨List.mem_append_right _ List.mem_cons_self, List.subset_append_left _ _⟩
  · cases rest with
    | nil =>
        rw [List.append_nil] at same
        rw [List.nil_append] at split
        exact ⟨split ▸ List.mem_cons_self, same ▸ List.Subset.refl _⟩
    | cons head rest =>
        cases split
        exact absurd (same ▸ List.mem_append_right _ List.mem_cons_self) elsewhere

/-- A header of an encoding that comes first of its canonical name stands for no entry: the
entry would be a parameter of that name. -/
theorem not_entered_of_header {context : String} {p : Parameter} {parts : List Node}
    (declares : builder.DeclaresParameters operation shared parameters body)
    (comes : builder.ComesFrom context (located (inForce parameters) ++ body) node p)
    (entering : List.Forall₂ (fun raw part => entered builder.document raw = .ok (some part))
      (entriesOf operation shared) parts)
    (apart : node ∉ inForce parameters) : node ∉ parts := by
  intro among
  obtain ⟨before, after, split, free⟩ := comes.first
  obtain ⟨raw, listed, enters⟩ := exists_of_forall₂_right entering among
  have declared : raw ∈ shared.items ++ (operation.under "parameters").items :=
    List.mem_append.2 (List.mem_append.1 listed).symm
  obtain ⟨part, member, resolved⟩ :=
    exists_of_forall₂_left (mapM_eq_ok_iff.1 declares.resolved) declared
  have elsewhere : .located p.kind node ∉ located (inForce parameters) := by
    intro inside
    obtain ⟨other, held, same⟩ := List.mem_map.1 inside
    obtain ⟨-, rfl⟩ := Origin.located.inj same
    exact apart (List.mem_filter.1 held).1
  obtain ⟨inBody, earlier⟩ := mem_and_subset_of_split split elsewhere
  obtain ⟨-, raw', header, name, led, renamed⟩ := exists_header_of_mem_body declares.body inBody
  obtain ⟨-, placed, named, plain⟩ := object_of_namedHeader (holds_of_resolveWithin led) renamed
  obtain rfl := resolve_eq_of_entered enters plain resolved
  -- if it were entered, one of its name would be in force and come first
  obtain ⟨shadow, inside, called⟩ := exists_isNamed_inForce member (isNamed_iff.2 ⟨named, placed⟩)
  obtain ⟨called, lies⟩ := isNamed_iff.1 called
  have known : shadow.value.location ≠ .other := by
    rw [Json.location, lies]
    nofun
  have listed : .located shadow.value.location shadow ∈ located (inForce parameters) :=
    List.mem_map.2 ⟨shadow, List.mem_filter.2 ⟨inside, bne_iff_ne.2 known⟩, rfl⟩
  have same : p.name = name := Json.str.inj (comes.stands.name.symm.trans named)
  exact free _ (earlier listed) ⟨name, called, by rw [comes.stands.canonical.display, same]⟩

end

/-- The mapper selects the object that a parameter of the signature is made from exactly
when the parameter is one of the lists, an entry stands for the object in one step, and no
rival stands before, in the operation's list or then in that of the path. -/
theorem selects_iff_of_build {signature : Signature} {p : Parameter} {wanted : String}
    (here : builder.document = .root 0 contract) (stands : operation.Stands 0 contract)
    (stands' : shared.Stands 0 contract)
    (returned : Run.Returns (builder.build functionName method path operation shared) s
      (some signature) t)
    (member : p ∈ signature.parameters) (other : p.kind ≠ .payload)
    (same : p.display = Name.display wanted) :
    ∃ parameters body node parts, builder.DeclaresParameters operation shared parameters body ∧
      builder.ComesFrom (Name.pascal functionName) (located (inForce parameters) ++ body) node p ∧
      List.Forall₂ (fun raw part => entered (.root 0 contract) raw = .ok (some part))
        (entriesOf operation shared) parts ∧
      ∀ d : Draft, d.document = contract →
        ((∃ e, Edit.Returns (parameterOf? p.kind.word (.str wanted) (entriesOf operation shared))
            d (some node) e) ↔
          node ∈ inForce parameters ∧ ∃ front back, parts = front ++ node :: back ∧
            ∀ other ∈ front, ¬ IsRival p.kind.word (Name.display wanted) other) := by
  obtain ⟨parameters, body, candidates, declares, makes, arranged⟩ :=
    exists_origins_of_build returned
  rw [arranged, Parameter.mem_requiredFirst] at member
  obtain ⟨node, comes⟩ := exists_comesFrom makes member other
  obtain ⟨parts, entering, objects⟩ := declares.exists_parts
  refine ⟨parameters, body, node, parts, declares, comes, here ▸ entering, ?_⟩
  rintro d rfl
  obtain ⟨before, after, split, -⟩ := comes.first
  obtain ⟨⟨entries, object⟩, located⟩ := object_of_mem_origins declares
    (split ▸ List.mem_append_right _ List.mem_cons_self)
  have canonical : Name.display p.name = Name.display wanted :=
    comes.stands.canonical.display.symm.trans same
  have stand : ∀ raw ∈ entriesOf operation shared, raw.Stands 0 d.document :=
    List.forall_mem_append.2 ⟨(stands.under "parameters").items, stands'.items⟩
  have searched := search_eq_some_iff (here ▸ entering) objects object located comes.stands.name
    canonical
  have selected : (∃ e, Edit.Returns
      (parameterOf? p.kind.word (.str wanted) (entriesOf operation shared)) d (some node) e) ↔
      search (.root 0 d.document) p.kind.word (Name.display wanted) (entriesOf operation shared) =
        .ok (some node) := by
    simp only [(reads_parameterOf? stand).returns_iff]
    exact ⟨fun ⟨_, found, _⟩ => found, fun found => ⟨d, found, rfl⟩⟩
  rw [selected, searched]
  refine ⟨fun unrivalled => ⟨?_, unrivalled⟩, And.right⟩
  -- a parameter that is not in force is a header of the body, which the lookup never enters
  by_contra apart
  obtain ⟨front, back, rfl, -⟩ := unrivalled
  exact not_entered_of_header declares comes entering apart
    (List.mem_append_right _ List.mem_cons_self)

theorem selects_iff_of_build_upload : ∃ (builder : SignatureBuilder) (s t : Session)
    (signature : Signature) (p : Parameter),
    Run.Returns (builder.build "uploadPet" "post" "/pets/\x7bpetId\x7d"
      (operationAt (.root 0 uploadContract) "/pets/\x7bpetId\x7d" "post")
      (sharedAt (.root 0 uploadContract) "/pets/\x7bpetId\x7d")) s (some signature) t ∧
    p ∈ signature.parameters ∧ p.kind = .query ∧ p.display = Name.display "limit" ∧
    ∃ parameters body node parts,
      builder.DeclaresParameters (operationAt (.root 0 uploadContract) "/pets/\x7bpetId\x7d" "post")
        (sharedAt (.root 0 uploadContract) "/pets/\x7bpetId\x7d") parameters body ∧
      builder.ComesFrom (Name.pascal "uploadPet") (located (inForce parameters) ++ body) node p ∧
      List.Forall₂ (fun raw part => entered (.root 0 uploadContract) raw = .ok (some part))
        (entriesOf (operationAt (.root 0 uploadContract) "/pets/\x7bpetId\x7d" "post")
          (sharedAt (.root 0 uploadContract) "/pets/\x7bpetId\x7d")) parts ∧
      ∀ d : Draft, d.document = uploadContract →
        ((∃ e, Edit.Returns (parameterOf? p.kind.word (.str "limit")
            (entriesOf (operationAt (.root 0 uploadContract) "/pets/\x7bpetId\x7d" "post")
              (sharedAt (.root 0 uploadContract) "/pets/\x7bpetId\x7d"))) d (some node) e) ↔
          node ∈ inForce parameters ∧ ∃ front back, parts = front ++ node :: back ∧
            ∀ other ∈ front, ¬ IsRival p.kind.word (Name.display "limit") other) := by
  have ok : ((buildAt (.root 0 uploadContract) "uploadPet" "/pets/\x7bpetId\x7d" "post").passes {}
      fun found _ => found.2.any fun signature => signature.parameters.any fun p =>
        p.kind == .query && p.display == Name.display "limit") = true := by decide +kernel
  obtain ⟨builder, s, t, signature, here, -, returned, found⟩ := exists_build_of ok
  obtain ⟨p, member, found⟩ := List.any_eq_true.1 found
  obtain ⟨isQuery, same⟩ := Bool.and_eq_true_iff.1 found
  have stands : ((((Node.root 0 uploadContract).under "paths").under "/pets/\x7bpetId\x7d").Stands 0
      uploadContract) := (Node.stands_root.under _).under _
  have isQuery : p.kind = .query := eq_of_beq isQuery
  have located : p.kind ≠ .payload := by rw [isQuery]; nofun
  exact ⟨builder, s, t, signature, p, returned, member, isQuery, eq_of_beq same,
    selects_iff_of_build here (stands.under _) (stands.under _) returned
      member located (eq_of_beq same)⟩

/-- An operation with a parameter that is a reference to a reference. -/
def chainContract : Json := .object [
    ("paths", .object [("/pets", .object [("get", .object [
      ("operationId", .str "listPets"),
      ("parameters", .list [reference "limit"])])])]),
    ("components", .object [("parameters", .object [
      ("limit", reference "pageSize"),
      ("pageSize", .object [("name", .str "limit"), ("in", .str "query")])])])]
where
  /-- A reference to a shared parameter. -/
  reference (name : String) : Json := .object [("$ref", .str ("#/components/parameters/" ++ name))]

/-- The signature has a parameter from the end of the chain, and the mapper selects none. -/
theorem chain_not_selected : ∃ (builder : SignatureBuilder) (s t : Session)
    (signature : Signature) (p : Parameter),
    builder.document = .root 0 chainContract ∧
    Run.Returns (builder.build "listPets" "get" "/pets"
      (operationAt (.root 0 chainContract) "/pets" "get")
      (sharedAt (.root 0 chainContract) "/pets")) s (some signature) t ∧
    p ∈ signature.parameters ∧ p.kind = .query ∧ p.display = Name.display "limit" ∧
    ∃ d, Edit.Returns (parameterOf? "query" (.str "limit")
      (entriesOf (operationAt (.root 0 chainContract) "/pets" "get")
        (sharedAt (.root 0 chainContract) "/pets"))) { document := chainContract } none d := by
  have ok : ((buildAt (.root 0 chainContract) "listPets" "/pets" "get").passes {}
      fun found _ => found.2.any fun signature => signature.parameters.any fun p =>
        p.kind == .query && p.display == Name.display "limit") = true := by decide +kernel
  have lost : ((parameterOf? "query" (.str "limit")
      (entriesOf (operationAt (.root 0 chainContract) "/pets" "get")
        (sharedAt (.root 0 chainContract) "/pets"))).passes { document := chainContract }
      fun found _ => found.isNone) = true := by decide +kernel
  obtain ⟨builder, s, t, signature, here, -, returned, found⟩ := exists_build_of ok
  obtain ⟨p, member, found⟩ := List.any_eq_true.1 found
  obtain ⟨isQuery, same⟩ := Bool.and_eq_true_iff.1 found
  obtain ⟨selected, d, searched, none⟩ := Edit.exists_returns_of lost
  obtain rfl := Option.isNone_iff_eq_none.1 none
  exact ⟨builder, s, t, signature, p, here, returned, member, eq_of_beq isQuery, eq_of_beq same,
    d, searched⟩

end SignatureBuilder

end TypedContract
