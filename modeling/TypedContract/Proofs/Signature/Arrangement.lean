/-
# TypedContract.Proofs.Signature.Arrangement -- the list of parameters and what it leaves out

The parameters of a signature are the first candidates of each canonical name, the required
ones in front (`parameters_of_build`).  So a parameter of the contract is left out exactly
when one before it, of whatever location and spelling, takes its canonical name.  For a
path parameter those are the declared parameters before it, for a body all of them, since
the body comes after them (`keeps_of_build`).

That the parameter with a wire name is the one that was declared and not another one of
that name rests on overriding: no two parameters in force have one name and one location
(`countP_inForce_le_one`).
-/
import TypedContract.Proofs.Signature.Origins

namespace TypedContract

set_option autoImplicit false

namespace SignatureBuilder

variable {builder : SignatureBuilder} {functionName method path : String}
  {operation shared : Node} {s t : Session}

/-! ## The list of parameters -/

/-- The parameters of a signature: of what the contract declares, the path's parameters and
those of the operation over them, the body and the headers of its encodings, the first
candidate of each canonical name, the required ones in front. -/
theorem parameters_of_build {signature : Signature}
    (returned : Run.Returns (builder.build functionName method path operation shared) s
      (some signature) t) :
    ∃ origins candidates, builder.origins operation shared = .ok origins ∧
      List.Forall₂ (Origin.Makes builder (Name.pascal functionName)) origins candidates ∧
      signature.parameters = (Parameter.firsts candidates).filter (·.required) ++
        (Parameter.firsts candidates).filter (!·.required) ∧
      (signature.parameters.map (·.display)).Nodup ∧
      (signature.parameters.map (·.identifier)).Nodup ∧
      ∀ p ∈ signature.parameters, p.kind = .path → p.required = true := by
  obtain ⟨parameters, body, candidates, declares, makes, arranged⟩ :=
    exists_origins_of_build returned
  have canonical := canonical_of_build returned
  refine ⟨_, candidates, declares.origins, makes, arranged, canonical.apart,
    canonical.nodup_identifiers, fun p member isPath => ?_⟩
  rw [arranged, Parameter.mem_requiredFirst] at member
  obtain ⟨origin, -, made⟩ := exists_of_forall₂_right makes (Parameter.mem_of_mem_firsts member)
  cases origin with
  | located kind node =>
      have same : kind = .path := made.kind.symm.trans isPath
      rw [made.required, same]
      rfl
  | payload body => exact made.required

/-- An upload whose parameters come from the path, from a component, in spellings and at
locations that are left out, with a body and with a header of its encoding. -/
def uploadContract : Json := .object [
    ("paths", .object [("/pets/\x7bpetId\x7d", .object [
      ("parameters", .list [parameter "petId" "path" [], parameter "limit" "query" []]),
      ("post", .object [
        ("parameters", .list [.object [("$ref", .str "#/components/parameters/limit")],
          parameter "tag" "query" [], parameter "pet_id" "header" [],
          parameter "trace" "cookie" []]),
        ("requestBody", .object [("content", .object [("multipart/form-data", .object [
          ("encoding", .object [("photo", .object [("headers", .object [
            ("X-Size", .object [("required", .bool true)])])])])])])])])])]),
    ("components", .object [("parameters", .object [
      ("limit", parameter "limit" "query" [("required", .bool true)])])])]
where
  /-- A parameter of a name and location. -/
  parameter (name place : String) (more : List (String × Json)) : Json :=
    .object ([("name", .str name), ("in", .str place)] ++ more)

theorem parameters_of_build_upload : ∃ (builder : SignatureBuilder) (s t : Session)
    (signature : Signature),
    Run.Returns (builder.build "uploadPet" "post" "/pets/\x7bpetId\x7d"
      (operationAt (.root 0 uploadContract) "/pets/\x7bpetId\x7d" "post")
      (sharedAt (.root 0 uploadContract) "/pets/\x7bpetId\x7d")) s (some signature) t ∧
    signature.parameters.map (·.name) = ["petId", "limit", "payload", "X-Size", "tag"] ∧
    ∃ origins candidates, builder.origins
        (operationAt (.root 0 uploadContract) "/pets/\x7bpetId\x7d" "post")
        (sharedAt (.root 0 uploadContract) "/pets/\x7bpetId\x7d") = .ok origins ∧
      List.Forall₂ (Origin.Makes builder (Name.pascal "uploadPet")) origins candidates ∧
      signature.parameters = (Parameter.firsts candidates).filter (·.required) ++
        (Parameter.firsts candidates).filter (!·.required) ∧
      (signature.parameters.map (·.display)).Nodup ∧
      (signature.parameters.map (·.identifier)).Nodup ∧
      ∀ p ∈ signature.parameters, p.kind = .path → p.required = true := by
  have ok : ((buildAt (.root 0 uploadContract) "uploadPet" "/pets/\x7bpetId\x7d" "post").passes {}
      fun found _ => found.2.any fun signature => signature.parameters.map (·.name) ==
        ["petId", "limit", "payload", "X-Size", "tag"]) = true := by decide +kernel
  obtain ⟨builder, s, t, signature, -, -, returned, named⟩ := exists_build_of ok
  exact ⟨builder, s, t, signature, returned, eq_of_beq named, parameters_of_build returned⟩

/-! ## One parameter for each name and location -/

/-- The parameter has the name and the location. -/
def isNamed (name place : String) (node : Node) : Bool :=
  (Json.str name).same (node.value.under "name") && (Json.str place).same (node.value.under "in")

theorem isNamed_iff {name place : String} {node : Node} :
    isNamed name place node = true ↔
      node.value.under "name" = .str name ∧ node.value.under "in" = .str place := by
  rw [isNamed, Bool.and_eq_true, Json.text_same_iff, Json.text_same_iff]

/-- Parameters of one name and location have the same texts for them. -/
theorem isNamed_congr {first second : Node} (same : first.isSameParameter second = true)
    (name place : String) : isNamed name place first = isNamed name place second := by
  rw [Node.isSameParameter, Bool.and_eq_true] at same
  obtain ⟨named, placed⟩ := same
  rw [Bool.eq_iff_iff, isNamed_iff, isNamed_iff]
  constructor
  · rintro ⟨own, own'⟩
    rw [own, Json.same_text_iff] at named
    rw [own', Json.same_text_iff] at placed
    exact ⟨named, placed⟩
  · rintro ⟨own, own'⟩
    rw [own, Json.text_same_iff] at named
    rw [own', Json.text_same_iff] at placed
    exact ⟨named, placed⟩

theorem isSameParameter_of_isNamed {first second : Node} {name place : String}
    (named : isNamed name place first = true) (named' : isNamed name place second = true) :
    first.isSameParameter second = true := by
  obtain ⟨own, own'⟩ := isNamed_iff.1 named
  obtain ⟨other, other'⟩ := isNamed_iff.1 named'
  rw [Node.isSameParameter, own, own', other, other', Bool.and_eq_true]
  exact ⟨Json.same_text_iff.2 rfl, Json.same_text_iff.2 rfl⟩

/-- One parameter more leaves at most one of a name and location. -/
theorem countP_overriding_le_one {name place : String} {kept : List Node} {parameter : Node}
    (few : kept.countP (isNamed name place) ≤ 1) :
    (overriding kept parameter).countP (isNamed name place) ≤ 1 := by
  unfold overriding
  split
  · rename_i position found
    obtain ⟨inside, same, -⟩ := List.findIdx?_eq_some_iff_getElem.1 found
    rw [List.countP_set inside, isNamed_congr same name place]
    have counted : (if isNamed name place kept[position] then 1 else 0) ≤
        kept.countP (isNamed name place) := by
      split
      · rename_i own
        exact List.countP_pos_iff.2 ⟨_, List.getElem_mem inside, own⟩
      · exact Nat.zero_le _
    omega
  · rename_i new
    rw [List.countP_append, List.countP_singleton]
    split
    · rename_i own
      have none : kept.countP (isNamed name place) = 0 := by
        refine List.countP_eq_zero.2 fun other member named => ?_
        have apart := List.findIdx?_eq_none_iff.1 new other member
        rw [isSameParameter_of_isNamed own named] at apart
        cases apart
      omega
    · exact few

/-- No two parameters in force have one name and one location. -/
theorem countP_inForce_le_one (name place : String) (parameters : List Node) :
    (inForce parameters).countP (isNamed name place) ≤ 1 := by
  unfold inForce
  have folded : ∀ kept : List Node, kept.countP (isNamed name place) ≤ 1 →
      (parameters.foldl overriding kept).countP (isNamed name place) ≤ 1 := by
    induction parameters with
    | nil => exact fun _ few => few
    | cons first rest ih => exact fun _ few => ih _ (countP_overriding_le_one few)
  exact folded [] (Nat.zero_le 1)

/-- No other parameter in force has the name and location of one. -/
theorem not_isNamed_of_split {name place : String} {parameters front back : List Node} {node : Node}
    (split : inForce parameters = front ++ node :: back) (own : isNamed name place node = true) :
    ∀ other ∈ front ++ back, isNamed name place other ≠ true := by
  have few := countP_inForce_le_one name place parameters
  rw [split, List.countP_append, List.countP_cons_of_pos own] at few
  refine List.countP_eq_zero.1 ?_
  rw [List.countP_append]
  omega

theorem mem_of_mem_inForce {parameters : List Node} {node : Node}
    (member : node ∈ inForce parameters) : node ∈ parameters := by
  unfold inForce at member
  have folded : ∀ kept : List Node, node ∈ parameters.foldl overriding kept →
      node ∈ kept ∨ node ∈ parameters := by
    clear member
    induction parameters with
    | nil => exact fun kept member => .inl member
    | cons first rest ih =>
        intro kept member
        rcases ih _ member with inside | inside
        · unfold overriding at inside
          split at inside
          · rcases List.mem_or_eq_of_mem_set inside with inside | rfl
            · exact .inl inside
            · exact .inr List.mem_cons_self
          · rcases List.mem_append.1 inside with inside | inside
            · exact .inl inside
            · exact .inr (List.mem_cons.2 (.inl (List.mem_singleton.1 inside)))
        · exact .inr (List.mem_cons_of_mem _ inside)
  exact (folded [] member).resolve_left List.not_mem_nil

/-- Of a name and location one parameter stays, also when another takes its place. -/
theorem exists_isNamed_overriding {name place : String} {kept : List Node} {parameter : Node}
    (some : (∃ node ∈ kept, isNamed name place node = true) ∨
      isNamed name place parameter = true) :
    ∃ node ∈ overriding kept parameter, isNamed name place node = true := by
  unfold overriding
  split
  · rename_i position found
    obtain ⟨inside, same, -⟩ := List.findIdx?_eq_some_iff_getElem.1 found
    by_cases own : isNamed name place parameter = true
    · exact ⟨parameter, List.mem_set inside parameter, own⟩
    · obtain ⟨node, member, named⟩ := some.resolve_right own
      obtain ⟨other, here, rfl⟩ := List.getElem_of_mem member
      have apart : position ≠ other := by
        rintro rfl
        exact own (isNamed_congr same name place ▸ named)
      refine ⟨kept[other], ?_, named⟩
      have within : other < (kept.set position parameter).length := by rwa [List.length_set]
      have stays : (kept.set position parameter)[other] = kept[other] :=
        List.getElem_set_ne apart _
      rw [← stays]
      exact List.getElem_mem _
  · rcases some with ⟨node, member, named⟩ | own
    · exact ⟨node, List.mem_append_left _ member, named⟩
    · exact ⟨parameter, List.mem_append_right _ (List.mem_singleton_self _), own⟩

/-- Each name and location that is declared has a parameter in force. -/
theorem exists_isNamed_inForce {name place : String} {parameters : List Node} {node : Node}
    (member : node ∈ parameters) (named : isNamed name place node = true) :
    ∃ node ∈ inForce parameters, isNamed name place node = true := by
  unfold inForce
  have folded : ∀ kept : List Node, (∃ node ∈ kept, isNamed name place node = true) ∨
      node ∈ parameters →
      ∃ node ∈ parameters.foldl overriding kept, isNamed name place node = true := by
    clear member
    induction parameters with
    | nil => exact fun kept some => some.resolve_right List.not_mem_nil
    | cons first rest ih =>
        intro kept some
        rw [List.mem_cons] at some
        rcases some with some | rfl | inside
        · exact ih _ (.inl (exists_isNamed_overriding (.inl some)))
        · exact ih _ (.inl (exists_isNamed_overriding (.inr named)))
        · exact ih _ (.inr inside)
  exact folded [] (.inr member)

/-! ## What is left out -/

/-- The parameter has a known location and the canonical name. -/
def TakesName (display : String) (node : Node) : Prop :=
  node.value.location ≠ .other ∧ ∃ name, node.value.under "name" = .str name ∧
    Name.display name = display

theorem under_in_of_location {node : Node} {kind : ParameterKind}
    (located : node.value.location = kind) (known : kind ≠ .other) :
    node.value.under "in" = .str kind.word := by
  unfold Json.location at located
  split at located
  · rename_i place isText
    rw [isText]
    unfold ParameterKind.ofLocation at located
    split at located
    · subst located; rfl
    · subst located; rfl
    · subst located; rfl
    · exact absurd located.symm known
  · exact absurd located.symm known

section

variable {context : String}

/-- Candidates have the canonical names of the parameters that they stand for. -/
theorem forall_display_ne_iff {nodes : List Node} {candidates : List Parameter} {display : String}
    (makes : List.Forall₂ (Origin.Makes builder context) (located nodes) candidates) :
    (∀ p ∈ candidates, p.display ≠ display) ↔ ∀ node ∈ nodes, ¬ TakesName display node := by
  constructor
  · rintro apart node member ⟨known, name, named, taken⟩
    have origin : Origin.located node.value.location node ∈ located nodes :=
      List.mem_map.2 ⟨node, List.mem_filter.2 ⟨member, bne_iff_ne.2 known⟩, rfl⟩
    obtain ⟨p, held, made⟩ := exists_of_forall₂_left makes origin
    refine apart p held ?_
    have same : Json.str p.name = .str name := made.name.symm.trans named
    rw [made.canonical.display, Json.str.inj same, taken]
  · intro free p held taken
    obtain ⟨origin, inside, made⟩ := exists_of_forall₂_right makes held
    obtain ⟨node, member, rfl⟩ := List.mem_map.1 inside
    obtain ⟨member, known⟩ := List.mem_filter.1 member
    refine free node member ⟨bne_iff_ne.1 known, p.name, made.name, ?_⟩
    rw [← made.canonical.display, taken]

/-- A candidate that is the only one of its sort is kept when none before it has its
canonical name. -/
theorem exists_mem_firsts_iff {wanted : Parameter → Prop} {front back : List Parameter}
    {p : Parameter} (own : wanted p) (only : ∀ q ∈ front ++ back, ¬ wanted q) :
    (∃ q ∈ Parameter.firsts (front ++ p :: back), wanted q) ↔
      ∀ q ∈ front, q.display ≠ p.display := by
  constructor
  · rintro ⟨q, kept, good⟩
    obtain ⟨before, after, split, apart⟩ := Parameter.mem_firsts_iff.1 kept
    have new : p ∉ front := fun member => only p (List.mem_append_left back member) own
    obtain rfl : q = p := by
      by_contra other
      have inside : q ∈ front ++ p :: back := Parameter.mem_of_mem_firsts kept
      rw [List.mem_append, List.mem_cons] at inside
      refine only q (List.mem_append.2 ?_) good
      exact inside.imp_right fun inside => inside.resolve_left other
    rcases List.append_eq_append_iff.1 split with ⟨rest, rfl, -⟩ | ⟨rest, rfl, same⟩
    · exact fun q member => apart q (List.mem_append_left rest member)
    · cases rest with
      | nil => simpa using apart
      | cons head rest =>
          cases same
          exact absurd (List.mem_append_right _ List.mem_cons_self) new
  · exact fun apart => ⟨p, Parameter.mem_firsts_iff.2 ⟨front, back, rfl, apart⟩, own⟩

/-- The candidate made from one of the origins, between those made from the others. -/
theorem exists_split_of_makes {front back : List Origin} {origin : Origin}
    {candidates : List Parameter}
    (makes : List.Forall₂ (Origin.Makes builder context) (front ++ origin :: back) candidates) :
    ∃ first p last, candidates = first ++ p :: last ∧
      List.Forall₂ (Origin.Makes builder context) front first ∧ origin.Makes builder context p ∧
      List.Forall₂ (Origin.Makes builder context) back last := by
  obtain ⟨first, others, rfl, before, rest⟩ := exists_append_of_forall₂ makes
  cases rest with
  | cons own after => exact ⟨first, _, _, rfl, before, own, after⟩

/-- After the body come headers only. -/
theorem cases_of_bodyOrigins {origins : List Origin}
    (found : builder.bodyOrigins operation = .ok origins) :
    ((operation.under "requestBody").value.truthy = false ∧ origins = []) ∨
      ∃ body rest, (operation.under "requestBody").value.truthy = true ∧
        origins = .payload body :: rest ∧ ∀ origin ∈ rest, ∃ node, origin = .located .header node := by
  unfold bodyOrigins at found
  dsimp only at found
  split at found
  · rename_i absent
    exact .inl ⟨by simpa using absent, (except_pure_eq_ok.1 found).symm⟩
  · rename_i present
    obtain ⟨body, -, found⟩ := except_bind_eq_ok.1 found
    obtain ⟨rest, mapped, found⟩ := except_bind_eq_ok.1 found
    obtain rfl := except_pure_eq_ok.1 found
    refine .inr ⟨body, rest, by simpa using present, rfl, fun origin member => ?_⟩
    obtain ⟨header, -, made⟩ := exists_of_forall₂_right (mapM_eq_ok_iff.1 mapped) member
    obtain ⟨_, -, made⟩ := except_bind_eq_ok.1 made
    obtain ⟨node, -, made⟩ := except_bind_eq_ok.1 made
    exact ⟨node, (except_pure_eq_ok.1 made).symm⟩

theorem kind_of_makes_located {nodes : List Node} {candidates : List Parameter} {p : Parameter}
    (makes : List.Forall₂ (Origin.Makes builder context) (located nodes) candidates)
    (member : p ∈ candidates) :
    ∃ node ∈ nodes, p.kind = node.value.location ∧ node.value.under "name" = .str p.name ∧
      p.kind ≠ .payload := by
  obtain ⟨origin, inside, made⟩ := exists_of_forall₂_right makes member
  obtain ⟨node, held, rfl⟩ := List.mem_map.1 inside
  refine ⟨node, (List.mem_filter.1 held).1, made.kind, made.name, ?_⟩
  rw [made.kind]
  unfold Json.location
  split
  · unfold ParameterKind.ofLocation
    split <;> nofun
  · nofun

theorem exists_isNamed_of_makes {nodes : List Node} {candidates : List Parameter} {p : Parameter}
    (makes : List.Forall₂ (Origin.Makes builder context) (located nodes) candidates)
    (member : p ∈ candidates) (isPath : p.kind = .path) :
    ∃ node ∈ nodes, isNamed p.name "path" node = true := by
  obtain ⟨node, held, placed, named, -⟩ := kind_of_makes_located makes member
  refine ⟨node, held, isNamed_iff.2 ⟨named, ?_⟩⟩
  exact under_in_of_location (placed.symm.trans isPath) nofun

/-- The body brings the payload and headers. -/
theorem kind_of_makes_body {origins : List Origin} {candidates : List Parameter} {p : Parameter}
    (found : builder.bodyOrigins operation = .ok origins)
    (makes : List.Forall₂ (Origin.Makes builder context) origins candidates)
    (member : p ∈ candidates) : p.kind ≠ .path := by
  obtain ⟨origin, inside, made⟩ := exists_of_forall₂_right makes member
  obtain ⟨-, rfl⟩ | ⟨body, rest, -, rfl, headers⟩ := cases_of_bodyOrigins found
  · cases inside
  · rcases List.mem_cons.1 inside with rfl | inside
    · rw [made.kind]
      nofun
    · obtain ⟨node, rfl⟩ := headers origin inside
      rw [made.kind]
      nofun

/-- A candidate of a path parameter is kept exactly when no parameter before it takes its
canonical name: a path parameter of the same name stands nowhere else. -/
theorem exists_path_iff {parameters front back : List Node} {node : Node} {body : List Origin}
    {candidates : List Parameter} (found : builder.bodyOrigins operation = .ok body)
    (makes : List.Forall₂ (Origin.Makes builder context) (located (inForce parameters) ++ body)
      candidates)
    (split : inForce parameters = front ++ node :: back) (isPath : node.value.location = .path) :
    ∃ name, node.value.under "name" = .str name ∧
      ((∃ p ∈ Parameter.firsts candidates, p.kind = .path ∧ p.name = name) ↔
        ∀ other ∈ front, ¬ TakesName (Name.display name) other) := by
  have listed : located (inForce parameters) =
      located front ++ .located .path node :: located back := by
    unfold located
    rw [split, List.filter_append, List.filter_cons_of_pos (by rw [isPath]; rfl),
      List.map_append, List.map_cons, isPath]
  rw [listed, List.append_assoc, List.cons_append] at makes
  obtain ⟨first, p, last, rfl, before, made, after⟩ := exists_split_of_makes makes
  obtain ⟨beside, behind, rfl, between, carried⟩ := exists_append_of_forall₂ after
  have named := isNamed_iff.2 ⟨made.name, under_in_of_location isPath nofun⟩
  have sole := not_isNamed_of_split split named
  refine ⟨p.name, made.name, (exists_mem_firsts_iff ⟨made.kind, rfl⟩ ?_).trans ?_⟩
  · rintro q member ⟨isPath', same⟩
    rw [List.mem_append, List.mem_append] at member
    rcases member with member | member | member
    · obtain ⟨other, held, again⟩ := exists_isNamed_of_makes before member isPath'
      exact sole other (List.mem_append_left back held) (same ▸ again)
    · obtain ⟨other, held, again⟩ := exists_isNamed_of_makes between member isPath'
      exact sole other (List.mem_append_right front held) (same ▸ again)
    · exact kind_of_makes_body found carried member isPath'
  · rw [made.canonical.display]
    exact forall_display_ne_iff before

/-- The candidate of a body is kept exactly when no parameter takes the name of the payload. -/
theorem exists_payload_iff {nodes : List Node} {body : List Origin} {candidates : List Parameter}
    (found : builder.bodyOrigins operation = .ok body)
    (makes : List.Forall₂ (Origin.Makes builder context) (located nodes ++ body) candidates)
    (present : (operation.under "requestBody").value.truthy = true) :
    (∃ p ∈ Parameter.firsts candidates, p.kind = .payload) ↔
      ∀ other ∈ nodes, ¬ TakesName payloadName other := by
  obtain ⟨absent, -⟩ | ⟨node, rest, -, rfl, headers⟩ := cases_of_bodyOrigins found
  · cases absent.symm.trans present
  · obtain ⟨first, p, last, rfl, before, made, after⟩ := exists_split_of_makes makes
    have display : p.display = payloadName := by
      rw [made.canonical.display, made.name]
      decide +kernel
    refine (exists_mem_firsts_iff made.kind fun q member => ?_).trans ?_
    · rcases List.mem_append.1 member with member | member
      · obtain ⟨_, -, -, -, other⟩ := kind_of_makes_located before member
        exact other
      · obtain ⟨origin, inside, made⟩ := exists_of_forall₂_right after member
        obtain ⟨node, rfl⟩ := headers origin inside
        rw [made.kind]
        nofun
    · rw [display]
      exact forall_display_ne_iff before

end

/-- A path parameter of the contract is in the signature, under its own name, exactly when
no parameter before it takes its canonical name, and the body exactly when no parameter
takes the name of the payload. -/
theorem keeps_of_build {signature : Signature}
    (returned : Run.Returns (builder.build functionName method path operation shared) s
      (some signature) t) :
    ∃ parameters,
      (shared.items ++ (operation.under "parameters").items).mapM builder.resolve =
        .ok parameters ∧
      (∀ front node back, inForce parameters = front ++ node :: back →
        node.value.location = .path → ∃ name, node.value.under "name" = .str name ∧
          ((∃ p ∈ signature.parameters, p.kind = .path ∧ p.name = name) ↔
            ∀ other ∈ front, ¬ TakesName (Name.display name) other)) ∧
      ((operation.under "requestBody").value.truthy = true →
        ((∃ p ∈ signature.parameters, p.kind = .payload) ↔
          ∀ other ∈ inForce parameters, ¬ TakesName payloadName other)) := by
  obtain ⟨parameters, body, candidates, declares, makes, arranged⟩ :=
    exists_origins_of_build returned
  have kept : ∀ p, p ∈ signature.parameters ↔ p ∈ Parameter.firsts candidates := fun p => by
    rw [arranged, Parameter.mem_requiredFirst]
  simp only [kept]
  exact ⟨parameters, declares.resolved,
    fun front node back split isPath => exists_path_iff declares.body makes split isPath,
    fun present => exists_payload_iff declares.body makes present⟩

/-- An operation with a path parameter and a body whose canonical names query parameters
take. -/
def spellingContract : Json := .object [
    ("paths", .object [("/pets/\x7bpet_id\x7d", .object [("put", .object [
      ("parameters", .list [parameter "petId" "query", parameter "pet_id" "path",
        parameter "owner_id" "path", parameter "payload" "query"]),
      ("requestBody", .object [("content", .object [("application/json", .object [])])])])])])]
where
  /-- A parameter of a name and location. -/
  parameter (name place : String) : Json := .object [("name", .str name), ("in", .str place)]

theorem keeps_of_build_spellings : ∃ (builder : SignatureBuilder) (s t : Session)
    (signature : Signature),
    Run.Returns (builder.build "putPet" "put" "/pets/\x7bpet_id\x7d"
      (operationAt (.root 0 spellingContract) "/pets/\x7bpet_id\x7d" "put")
      (sharedAt (.root 0 spellingContract) "/pets/\x7bpet_id\x7d")) s (some signature) t ∧
    signature.parameters.map (fun p => (p.name, p.kind)) =
      [("owner_id", .path), ("petId", .query), ("payload", .query)] ∧
    ∃ parameters, ((sharedAt (.root 0 spellingContract) "/pets/\x7bpet_id\x7d").items ++
        ((operationAt (.root 0 spellingContract) "/pets/\x7bpet_id\x7d" "put").under
          "parameters").items).mapM builder.resolve = .ok parameters ∧
      (∀ front node back, inForce parameters = front ++ node :: back →
        node.value.location = .path → ∃ name, node.value.under "name" = .str name ∧
          ((∃ p ∈ signature.parameters, p.kind = .path ∧ p.name = name) ↔
            ∀ other ∈ front, ¬ TakesName (Name.display name) other)) ∧
      (((operationAt (.root 0 spellingContract) "/pets/\x7bpet_id\x7d" "put").under
          "requestBody").value.truthy = true →
        ((∃ p ∈ signature.parameters, p.kind = .payload) ↔
          ∀ other ∈ inForce parameters, ¬ TakesName payloadName other)) := by
  have ok : ((buildAt (.root 0 spellingContract) "putPet" "/pets/\x7bpet_id\x7d" "put").passes {}
      fun found _ => found.2.any fun signature =>
        signature.parameters.map (fun p => (p.name, p.kind)) ==
          [("owner_id", .path), ("petId", .query), ("payload", .query)]) = true := by
    decide +kernel
  obtain ⟨builder, s, t, signature, -, -, returned, named⟩ := exists_build_of ok
  exact ⟨builder, s, t, signature, returned, eq_of_beq named, keeps_of_build returned⟩

/-- The path parameter `pet_id` and the body are declared, and the signature has neither. -/
theorem path_and_body_left_out : ∃ (builder : SignatureBuilder) (s t : Session)
    (signature : Signature) (node : Node),
    Run.Returns (builder.build "putPet" "put" "/pets/\x7bpet_id\x7d"
      (operationAt (.root 0 spellingContract) "/pets/\x7bpet_id\x7d" "put")
      (sharedAt (.root 0 spellingContract) "/pets/\x7bpet_id\x7d")) s (some signature) t ∧
    node ∈ ((operationAt (.root 0 spellingContract) "/pets/\x7bpet_id\x7d" "put").under
      "parameters").items ∧
    node.value.location = .path ∧ node.value.under "name" = .str "pet_id" ∧
    ((operationAt (.root 0 spellingContract) "/pets/\x7bpet_id\x7d" "put").under
      "requestBody").value.truthy = true ∧
    (¬ ∃ p ∈ signature.parameters, p.kind = .path ∧ p.name = "pet_id") ∧
    ¬ ∃ p ∈ signature.parameters, p.kind = .payload := by
  have ok : ((buildAt (.root 0 spellingContract) "putPet" "/pets/\x7bpet_id\x7d" "put").passes {}
      fun found _ => found.2.any fun signature => signature.parameters.all fun p =>
        (p.kind != .path || p.name != "pet_id") && p.kind != .payload) = true := by
    decide +kernel
  obtain ⟨builder, s, t, signature, -, -, returned, missing⟩ := exists_build_of ok
  simp only [List.all_eq_true, Bool.and_eq_true, Bool.or_eq_true, bne_iff_ne] at missing
  have second : 1 < ((operationAt (.root 0 spellingContract) "/pets/\x7bpet_id\x7d" "put").under
      "parameters").items.length := by decide +kernel
  refine ⟨builder, s, t, signature, _, returned, List.getElem_mem second, rfl, rfl, rfl, ?_, ?_⟩
  · rintro ⟨p, member, isPath, named⟩
    exact (missing p member).1.elim (· isPath) (· named)
  · rintro ⟨p, member, isPayload⟩
    exact (missing p member).2 isPayload

end SignatureBuilder

end TypedContract
