/-
# TypedContract.Proofs.Signature.Origins -- what the parameters of an operation stand for

The builder finds references, names, bodies and types in one pass.  `origins` says without
it which parts of an operation become parameters: the parameters of the path and then those
of the operation, at the ends of their references, a later one in the place of an earlier
one of its name and location; the body; the headers of its encodings.  Each candidate is
made from one of them, in their order (`exists_origins_of_candidates`), and each step of
the search has one lemma that says what it found.

A signature has the first candidate of each canonical name (`eq_firsts_of_distinct`), the
required ones before the others (`exists_origins_of_build`).
-/
import TypedContract.Proofs.Signature.Canonical
import TypedContract.Proofs.Signature.Chain

namespace TypedContract

set_option autoImplicit false

variable {α β : Type}

/-! ## Reading without faults -/

namespace Node

/-- The items of a list; other values have none. -/
def items (node : Node) : List Node :=
  match node.value with
  | .list values => node.childrenFrom 0 values
  | _ => []

/-- The entries of an object; other values have none. -/
def held (node : Node) : List (String × Node) :=
  match node.value with
  | .object entries => node.entriesFrom 0 entries
  | _ => []

/-- The member of an object; other values have none. -/
def under (node : Node) (name : String) : Node :=
  match node.value with
  | .object entries => (node.find? name entries).getD (free .null)
  | _ => free .null

variable {node : Node} {name : String}

theorem eq_under_of_member {found : Node} (member : node.member name = .ok found) :
    found = node.under name := by
  unfold Node.member Node.member? at member
  unfold under
  cases object : node.value with
  | object entries =>
      rw [object] at member
      exact (except_pure_eq_ok.1 member).symm
  | _ => rw [object] at member; cases member

/-- A walk over elements that are no texts is over the items of a list: the elements of
objects and texts are texts. -/
theorem eq_items_of_elements {children : List Node}
    (walked : (node.orElse (.list [])).elements = .ok children)
    (noText : ∀ child ∈ children, ∀ text, child.value ≠ .str text) : children = node.items := by
  unfold orElse at walked
  split at walked
  · obtain ⟨values, listed, same⟩ := except_bind_eq_ok.1 walked
    obtain rfl := except_pure_eq_ok.1 same
    unfold items
    -- what can be walked besides a list gives texts, and no child is one
    cases kind : node.value with
    | list items =>
        rw [kind] at listed
        cases listed
        rfl
    | object entries =>
        rw [kind] at listed
        cases listed
        cases entries with
        | nil => rfl
        | cons entry rest => exact absurd rfl (noText _ List.mem_cons_self entry.1)
    | str text =>
        rw [kind] at listed
        cases listed
        cases chars : text.toList with
        | nil => rfl
        | cons c rest =>
            rw [chars] at noText
            exact absurd rfl (noText _ List.mem_cons_self (String.singleton c))
    | _ => rw [kind] at listed; cases listed
  · rename_i falsy
    cases walked
    unfold items
    cases kind : node.value with
    | list items =>
        cases items with
        | nil => rfl
        | cons item rest => exact absurd (by rw [kind]; rfl) falsy
    | _ => rfl

theorem eq_held_of_entries {entries : List (String × Node)}
    (walked : (node.orElse (.object [])).entries = .ok entries) : entries = node.held := by
  unfold orElse at walked
  split at walked
  · obtain ⟨values, listed, same⟩ := except_bind_eq_ok.1 walked
    obtain rfl := except_pure_eq_ok.1 same
    unfold held
    cases kind : node.value with
    | object entries =>
        rw [kind] at listed
        cases listed
        rfl
    | _ => rw [kind] at listed; cases listed
  · rename_i falsy
    cases walked
    unfold held
    cases kind : node.value with
    | object entries =>
        cases entries with
        | nil => rfl
        | cons entry rest => exact absurd (by rw [kind]; rfl) falsy
    | _ => rfl

theorem Stands.under {number : Nat} {contract : Json} (stands : node.Stands number contract)
    (name : String) : (node.under name).Stands number contract := by
  unfold Node.under
  split
  · rename_i entries object
    cases found : node.find? name entries with
    | none => exact stands_free
    | some inner => exact stands.of_inside (inside_find? object found)
  · exact stands_free

theorem Stands.items {number : Nat} {contract : Json} (stands : node.Stands number contract) :
    ∀ item ∈ node.items, item.Stands number contract := by
  intro item member
  unfold Node.items at member
  split at member
  · rename_i values isList
    obtain ⟨position, value, here, rfl⟩ := mem_childrenFrom member
    refine stands.of_inside (inside_child ?_)
    rw [isList, Nat.zero_add]
    simp [Json.at?, here]
  · cases member

end Node

namespace Json

theorem eq_under_of_member {value found : Json} {name : String}
    (member : value.member name = .ok found) : found = value.under name := by
  unfold Json.member Json.member? at member
  unfold under held
  cases value with
  | object entries => exact (except_pure_eq_ok.1 member).symm
  | _ => cases member

theorem eq_under_of_required {value found : Json} {name : String}
    (required : value.required name = .ok found) : found = value.under name := by
  cases value with
  | object entries =>
      rw [Json.required.eq_def] at required
      unfold under held
      cases here : find? name entries with
      | some inner =>
          simp only [here, Except.ok.injEq] at required
          exact required.symm
      | none => simp [here] at required
  | _ => cases required

theorem isObject_of_member {value found : Json} {name : String}
    (member : value.member name = .ok found) : ∃ entries, value = .object entries := by
  cases value with
  | object entries => exact ⟨entries, rfl⟩
  | _ => cases member

/-- Where a parameter of the contract goes. -/
def location (value : Json) : ParameterKind :=
  match value.under "in" with
  | .str place => .ofLocation place
  | _ => .other

end Json

/-! ## Origins -/

/-- Both parameters have the same name and the same location. -/
def Node.isSameParameter (first second : Node) : Bool :=
  (second.value.under "name").same (first.value.under "name") &&
    (second.value.under "in").same (first.value.under "in")

namespace SignatureBuilder

/-- The parameters after one more: in the place of the first of its name and location, or
at the end. -/
def overriding (kept : List Node) (parameter : Node) : List Node :=
  match kept.findIdx? parameter.isSameParameter with
  | some position => kept.set position parameter
  | none => kept ++ [parameter]

/-- A part of the contract that a parameter stands for. -/
inductive Origin where
  | located (kind : ParameterKind) (node : Node)
  | payload (body : Node)

/-- The parameters in force among those of a path and of its operation. -/
def inForce (parameters : List Node) : List Node := parameters.foldl overriding []

/-- The parameters of known locations. -/
def located (parameters : List Node) : List Origin :=
  (parameters.filter fun node => node.value.location != .other).map fun node =>
    .located node.value.location node

/-- The headers of all encodings in a content, in the order of the document. -/
def headers (content : Node) : List (String × Node) :=
  content.held.flatMap fun media =>
    (media.2.under "encoding").held.flatMap fun encoding => (encoding.2.under "headers").held

/-- A header at the end of its references, under its own name. -/
def headerOrigin (builder : SignatureBuilder) (header : String × Node) : Except Fault Origin := do
  return .located .header (← namedHeader (← builder.resolve header.2) header.1)

/-- The body of an operation and the headers of its encodings. -/
def bodyOrigins (builder : SignatureBuilder) (operation : Node) : Except Fault (List Origin) := do
  let raw := operation.under "requestBody"
  if !raw.value.truthy then return []
  let body ← builder.resolve raw
  return .payload body :: (← (headers (body.under "content")).mapM builder.headerOrigin)

/-- What the parameters of an operation stand for. -/
def origins (builder : SignatureBuilder) (operation shared : Node) :
    Except Fault (List Origin) := do
  let parameters ← (shared.items ++ (operation.under "parameters").items).mapM builder.resolve
  return located (inForce parameters) ++ (← builder.bodyOrigins operation)

/-- The parameter is made from a part of the contract as one of a kind. -/
structure StandsFor (builder : SignatureBuilder) (context : String) (place : ParameterKind)
    (node : Node) (parameter : Parameter) : Prop where
  name : node.value.under "name" = .str parameter.name
  canonical : parameter.Canonical
  kind : parameter.kind = place
  typed : ∃ schema s t, schemaOf node = .ok schema ∧
    Run.Returns (builder.typeAndDefault schema parameter.name context) s
      (parameter.type, parameter.default) t
  required : parameter.required = (place == .path ||
    ((node.value.under "required").truthy && parameter.default.isNull &&
      !(builder.configuration.treatNilableAsOptional && parameter.type.isNilable)))
  description :
    Schema.strip ((node.value.under "description").orElse (.str "")) = .ok parameter.description
  annotations : ∃ s t,
    Run.Returns (Example.annotationsFor node.value parameter.name) s parameter.annotations t

/-- The content of a body, empty when there is none. -/
def contentOf (body : Node) : Node := (body.under "content").orElse (.object [])

/-- The schema of a payload, `null` when there is no media type. -/
def payloadSchema (content : Node) (mediaType : Json) : Except Fault Node :=
  if mediaType.truthy then mediaSchema content mediaType else .ok (.free .null)

/-- The annotations of a payload, none when there is no media type. -/
def payloadAnnotations (content : Node) (mediaType : Json) : Run (List Annotation) :=
  if mediaType.truthy then do
    Example.annotationsFor (← Run.lift (content.index mediaType)).value payloadName
  else pure []

/-- The parameter carries a request body. -/
structure CarriesBody (builder : SignatureBuilder) (context : String) (body : Node)
    (parameter : Parameter) : Prop where
  name : parameter.name = payloadName
  canonical : parameter.Canonical
  kind : parameter.kind = .payload
  required : parameter.required = true
  mediaType : selectMediaType (contentOf body).value = .ok parameter.mediaType
  typed : ∃ schema s t, payloadSchema (contentOf body) parameter.mediaType = .ok schema ∧
    Run.Returns (builder.translator.translateNode schema (context ++ "Request")) s parameter.type t
  description :
    Schema.strip ((body.value.under "description").orElse (.str "")) = .ok parameter.description
  annotations : ∃ s t, Run.Returns (payloadAnnotations (contentOf body) parameter.mediaType) s
    parameter.annotations t

/-- The parameter is made from the part of the contract. -/
def Origin.Makes (builder : SignatureBuilder) (context : String) : Origin → Parameter → Prop
  | .located kind node => builder.StandsFor context kind node
  | .payload body => builder.CarriesBody context body

variable {builder : SignatureBuilder} {context : String} {s t : Session}

/-! ## Parameters of the contract -/

/-- A part that is no reference is its own end; any other leads on to the part that it
refers to. -/
theorem resolveWithin_cases {document raw node : Node} {seen : List Json} {bound : Nat}
    (resolved : resolveWithin document seen (bound + 1) raw = .ok node) :
    (raw.value.holds "$ref" = .ok false ∧ node = raw) ∨
      ∃ ref next, raw.value.holds "$ref" = .ok true ∧ raw.required "$ref" = .ok ref ∧
        Pointer.resolve document ref.value = .ok next ∧
        resolveWithin document (ref.value :: seen) bound next = .ok node := by
  unfold resolveWithin at resolved
  obtain ⟨isReference, held, rest⟩ := except_bind_eq_ok.1 resolved
  cases isReference with
  | false => exact .inl ⟨held, (except_pure_eq_ok.1 rest).symm⟩
  | true =>
      obtain ⟨ref, required, rest⟩ := except_bind_eq_ok.1 rest
      obtain ⟨key, isKey, rest⟩ := except_bind_eq_ok.1 rest
      obtain rfl := Json.eq_of_key isKey
      split at rest
      · cases rest
      · obtain ⟨next, led, rest⟩ := except_bind_eq_ok.1 rest
        exact .inr ⟨ref, next, held, required, led, rest⟩

/-- A chain of references to an object passes objects only. -/
theorem isObject_of_resolveWithin {document raw node : Node} {seen : List Json} {bound : Nat}
    (resolved : resolveWithin document seen bound raw = .ok node)
    {entries : List (String × Json)} (object : node.value = .object entries) :
    ∃ entries, raw.value = .object entries := by
  cases bound with
  | zero => cases resolved
  | succ bound =>
      rcases resolveWithin_cases resolved with ⟨-, rfl⟩ | ⟨ref, next, -, required, -⟩
      · exact ⟨entries, object⟩
      · unfold Node.required at required
        split at required
        · rename_i entries object
          exact ⟨entries, object⟩
        · cases required

theorem returns_resolved {raw node : Node} :
    Run.Returns (builder.resolved raw).run s (some node) t ↔ builder.resolve raw = .ok node ∧ s = t := by
  unfold resolved
  cases end_ : builder.resolve raw with
  | ok other =>
      rw [Mapping.returns_pure, Except.ok.injEq]
  | error fault =>
      refine iff_of_false (fun returned => ?_) (fun impossible => nomatch impossible.1)
      cases fault with
      | missingKey key =>
          obtain ⟨_, _, -, rest⟩ := Mapping.returns_bind.1 returned
          exact Mapping.not_returns_giveUp rest
      | _ => cases (Mapping.returns_lift.1 returned).1

theorem eq_isSameParameter_of_sameKey {first second : Node} {same : Bool}
    (compared : sameKey first second = .ok same) : same = first.isSameParameter second := by
  unfold sameKey at compared
  obtain ⟨name, named, compared⟩ := except_bind_eq_ok.1 compared
  obtain ⟨place, placed, compared⟩ := except_bind_eq_ok.1 compared
  obtain ⟨name', named', compared⟩ := except_bind_eq_ok.1 compared
  obtain ⟨place', placed', compared⟩ := except_bind_eq_ok.1 compared
  obtain rfl := except_pure_eq_ok.1 compared
  rw [Json.eq_under_of_member named, Json.eq_under_of_member placed,
    Json.eq_under_of_member named', Json.eq_under_of_member placed']
  rfl

theorem eq_overriding_of_override {parameter : Node} {kept after : List Node}
    (placed : override parameter kept = .ok after) : after = overriding kept parameter := by
  unfold overriding
  induction kept generalizing after with
  | nil =>
      cases placed
      rfl
  | cons first rest ih =>
      rw [override] at placed
      obtain ⟨same, compared, placed⟩ := except_bind_eq_ok.1 placed
      obtain rfl := eq_isSameParameter_of_sameKey compared
      rw [List.findIdx?_cons]
      split at placed
      · rename_i same
        obtain rfl := except_pure_eq_ok.1 placed
        rw [if_pos same]
        rfl
      · rename_i apart
        obtain ⟨others, further, placed⟩ := except_bind_eq_ok.1 placed
        obtain rfl := except_pure_eq_ok.1 placed
        rw [if_neg apart, ih further]
        cases rest.findIdx? parameter.isSameParameter with
        | none => rfl
        | some position => rfl

theorem resolved_of_declared {raws kept found : List Node}
    (returned : Run.Returns (builder.declared kept raws).run s (some found) t) :
    ∃ nodes, raws.mapM builder.resolve = .ok nodes ∧ found = nodes.foldl overriding kept ∧
      ∀ node ∈ nodes, ∃ entries, node.value = .object entries := by
  induction raws generalizing s kept with
  | nil =>
      obtain ⟨rfl, -⟩ := Mapping.returns_pure.1 returned
      exact ⟨[], rfl, rfl, nofun⟩
  | cons raw rest ih =>
      unfold declared at returned
      obtain ⟨node, u, own, returned⟩ := Mapping.returns_bind.1 returned
      obtain ⟨resolved, rfl⟩ := returns_resolved.1 own
      obtain ⟨after, placed, returned⟩ := Mapping.returns_read.1 returned
      obtain ⟨_, looked, placed⟩ := except_bind_eq_ok.1 placed
      obtain rfl := eq_overriding_of_override placed
      obtain ⟨nodes, others, rfl, objects⟩ := ih returned
      refine ⟨node :: nodes, ?_, rfl, List.forall_mem_cons.2 ⟨?_, objects⟩⟩
      · rw [List.mapM_cons, resolved, others]
        rfl
      · exact Json.isObject_of_member looked

theorem standsFor_of_parameter {raw : Node} {kind : ParameterKind} {parameter : Parameter}
    (returned : Run.Returns (builder.parameter raw kind context).run s (some parameter) t) :
    builder.StandsFor context kind raw parameter := by
  have canonical : parameter.Canonical := ensures_parameter.ensures returned
  unfold SignatureBuilder.parameter at returned
  obtain ⟨named, held, returned⟩ := Mapping.returns_read.1 returned
  obtain ⟨schema, schemed, returned⟩ := Mapping.returns_read.1 returned
  obtain ⟨name, isText, returned⟩ := Mapping.returns_read.1 returned
  obtain ⟨⟨type, default⟩, u, typed, returned⟩ := Mapping.returns_bind.1 returned
  obtain ⟨_, v, -, returned⟩ := Mapping.returns_bind.1 returned
  obtain ⟨flag, flagged, returned⟩ := Mapping.returns_read.1 returned
  obtain ⟨description, stripped, returned⟩ := Mapping.returns_read.1 returned
  obtain ⟨annotations, w, annotated, returned⟩ := Mapping.returns_bind.1 returned
  obtain ⟨rfl, rfl⟩ := Mapping.returns_pure.1 returned
  obtain ⟨text, found, stripped⟩ := except_bind_eq_ok.1 stripped
  obtain rfl := Json.eq_under_of_member found
  obtain rfl := Json.eq_under_of_member flagged
  have text : named = .str name := by
    cases named with
    | str content => rw [Except.ok.inj isText]
    | _ => cases isText
  constructor
  · rw [← Json.eq_under_of_required held, text]
  · exact canonical
  · dsimp only
  · exact ⟨schema, _, _, schemed, Mapping.returns_step.1 typed⟩
  · dsimp only
  · exact stripped
  · exact ⟨_, _, Mapping.returns_step.1 annotated⟩

theorem eq_location_of_kindOf {raw : Node} {kind : ParameterKind} (read : kindOf raw = .ok kind) :
    kind = raw.value.location := by
  unfold kindOf at read
  obtain ⟨place?, found, read⟩ := except_bind_eq_ok.1 read
  obtain ⟨key, isKey, read⟩ := except_bind_eq_ok.1 read
  obtain rfl := Json.eq_of_key isKey
  unfold Json.location
  have same : raw.value.under "in" = place?.getD .null := by
    cases value : raw.value with
    | object entries =>
        rw [value] at found
        cases found
        rfl
    | _ => rw [value] at found; cases found
  rw [same]
  cases place? with
  | none => exact (except_pure_eq_ok.1 read).symm
  | some place => cases place <;> exact (except_pure_eq_ok.1 read).symm

theorem makes_of_placed {nodes : List Node} {found : List Parameter}
    (returned : Run.Returns (builder.placed context nodes).run s (some found) t) :
    List.Forall₂ (Origin.Makes builder context) (located nodes) found := by
  induction nodes generalizing s found with
  | nil =>
      obtain ⟨rfl, -⟩ := Mapping.returns_pure.1 returned
      exact .nil
  | cons raw rest ih =>
      unfold placed at returned
      obtain ⟨kind, read, returned⟩ := Mapping.returns_read.1 returned
      obtain rfl := eq_location_of_kindOf read
      unfold located
      rw [List.filter_cons]
      split at returned
      · rename_i other
        rw [other]
        obtain ⟨_, _, -, returned⟩ := Mapping.returns_bind.1 returned
        obtain ⟨_, _, -, returned⟩ := Mapping.returns_bind.1 returned
        obtain ⟨_, _, -, returned⟩ := Mapping.returns_bind.1 returned
        exact ih returned
      · rename_i kind known
        obtain ⟨first, _, own, returned⟩ := Mapping.returns_bind.1 returned
        obtain ⟨others, _, further, returned⟩ := Mapping.returns_bind.1 returned
        obtain ⟨rfl, rfl⟩ := Mapping.returns_pure.1 returned
        rw [if_pos (by simpa using known)]
        exact .cons (standsFor_of_parameter own) (ih further)

/-! ## Request bodies -/

theorem makes_of_headerParameters {entries : List (String × Node)} {found : List Parameter}
    (returned : Run.Returns (builder.headerParameters context entries).run s (some found) t) :
    ∃ origins, entries.mapM builder.headerOrigin = .ok origins ∧
      List.Forall₂ (Origin.Makes builder context) origins found := by
  induction entries generalizing s found with
  | nil =>
      obtain ⟨rfl, -⟩ := Mapping.returns_pure.1 returned
      exact ⟨[], rfl, .nil⟩
  | cons entry rest ih =>
      obtain ⟨name, raw⟩ := entry
      unfold headerParameters at returned
      obtain ⟨header, u, own, returned⟩ := Mapping.returns_bind.1 returned
      obtain ⟨resolved, rfl⟩ := returns_resolved.1 own
      obtain ⟨node, named, returned⟩ := Mapping.returns_read.1 returned
      obtain ⟨first, u, made, returned⟩ := Mapping.returns_bind.1 returned
      obtain ⟨others, u, further, returned⟩ := Mapping.returns_bind.1 returned
      obtain ⟨rfl, rfl⟩ := Mapping.returns_pure.1 returned
      obtain ⟨origins, mapped, makes⟩ := ih further
      refine ⟨.located .header node :: origins, ?_, .cons (standsFor_of_parameter made) makes⟩
      rw [List.mapM_cons, headerOrigin, resolved, except_ok_bind, named, mapped]
      rfl

/-- What a step over entries, one after the other, makes of the headers of each. -/
theorem makes_of_appended {entry : String × Node} {others : List (String × Node)}
    {parts : String × Node → List (String × Node)} {first rest : List Parameter}
    (head : ∃ origins, (parts entry).mapM builder.headerOrigin = .ok origins ∧
      List.Forall₂ (Origin.Makes builder context) origins first)
    (tail : ∃ origins, (others.flatMap parts).mapM builder.headerOrigin = .ok origins ∧
      List.Forall₂ (Origin.Makes builder context) origins rest) :
    ∃ origins, ((entry :: others).flatMap parts).mapM builder.headerOrigin = .ok origins ∧
      List.Forall₂ (Origin.Makes builder context) origins (first ++ rest) := by
  obtain ⟨origins, mapped, makes⟩ := head
  obtain ⟨origins', mapped', makes'⟩ := tail
  refine ⟨origins ++ origins', ?_, List.rel_append makes makes'⟩
  rw [List.flatMap_cons, List.mapM_append, mapped, mapped']
  rfl

theorem makes_of_encodingParameters {encodings : List (String × Node)} {found : List Parameter}
    (returned : Run.Returns (builder.encodingParameters context encodings).run s (some found) t) :
    ∃ origins, (encodings.flatMap fun encoding => (encoding.2.under "headers").held).mapM
        builder.headerOrigin = .ok origins ∧
      List.Forall₂ (Origin.Makes builder context) origins found := by
  induction encodings generalizing s found with
  | nil =>
      obtain ⟨rfl, -⟩ := Mapping.returns_pure.1 returned
      exact ⟨[], rfl, .nil⟩
  | cons entry rest ih =>
      obtain ⟨name, encoding⟩ := entry
      unfold encodingParameters at returned
      obtain ⟨entries, read, returned⟩ := Mapping.returns_read.1 returned
      obtain ⟨held, member, read⟩ := except_bind_eq_ok.1 read
      obtain rfl := Node.eq_under_of_member member
      obtain rfl := Node.eq_held_of_entries read
      obtain ⟨first, u, made, returned⟩ := Mapping.returns_bind.1 returned
      obtain ⟨others, u, further, returned⟩ := Mapping.returns_bind.1 returned
      obtain ⟨rfl, rfl⟩ := Mapping.returns_pure.1 returned
      exact makes_of_appended (makes_of_headerParameters made) (ih further)

theorem makes_of_mediaParameters {medias : List (String × Node)} {found : List Parameter}
    (returned : Run.Returns (builder.mediaParameters context medias).run s (some found) t) :
    ∃ origins, (medias.flatMap fun media => (media.2.under "encoding").held.flatMap fun encoding =>
        (encoding.2.under "headers").held).mapM builder.headerOrigin = .ok origins ∧
      List.Forall₂ (Origin.Makes builder context) origins found := by
  induction medias generalizing s found with
  | nil =>
      obtain ⟨rfl, -⟩ := Mapping.returns_pure.1 returned
      exact ⟨[], rfl, .nil⟩
  | cons entry rest ih =>
      obtain ⟨name, media⟩ := entry
      unfold mediaParameters at returned
      obtain ⟨entries, read, returned⟩ := Mapping.returns_read.1 returned
      obtain ⟨held, member, read⟩ := except_bind_eq_ok.1 read
      obtain rfl := Node.eq_under_of_member member
      obtain rfl := Node.eq_held_of_entries read
      obtain ⟨first, u, made, returned⟩ := Mapping.returns_bind.1 returned
      obtain ⟨others, u, further, returned⟩ := Mapping.returns_bind.1 returned
      obtain ⟨rfl, rfl⟩ := Mapping.returns_pure.1 returned
      exact makes_of_appended (makes_of_encodingParameters made) (ih further)

theorem carriesBody_of_payload {body : Node} {parameter : Parameter}
    (returned : Run.Returns (builder.payload body (contentOf body) context) s parameter t) :
    builder.CarriesBody context body parameter := by
  have canonical : parameter.Canonical := canonical_of_payload returned
  unfold payload at returned
  obtain ⟨mediaType, u, read, returned⟩ := Run.returns_bind.1 returned
  obtain ⟨selected, rfl⟩ := Run.returns_lift.1 read
  split at returned
  · rename_i some
    simp only [Run.returns_bind, Run.returns_lift, Run.returns_pure] at returned
    obtain ⟨schema, v, ⟨held, rfl⟩, type, w, typed, description, _, ⟨stripped, rfl⟩, media, _,
      ⟨indexed, rfl⟩, annotations, x, annotated, rfl, -⟩ := returned
    obtain ⟨text, found, stripped⟩ := except_bind_eq_ok.1 stripped
    obtain rfl := Json.eq_under_of_member found
    have annotates : Run.Returns (payloadAnnotations (contentOf body) mediaType) w annotations x := by
      rw [payloadAnnotations, if_pos some]
      exact Run.returns_bind.2 ⟨media, w, Run.returns_lift.2 ⟨indexed, rfl⟩, annotated⟩
    exact ⟨rfl, canonical, rfl, rfl, selected, ⟨schema, _, w, (if_pos some).trans held, typed⟩,
      stripped, ⟨w, x, annotates⟩⟩
  · rename_i none
    simp only [Run.returns_bind, Run.returns_lift, Run.returns_pure] at returned
    obtain ⟨schema, v, ⟨rfl, rfl⟩, type, w, typed, description, _, ⟨stripped, rfl⟩, annotations, x,
      ⟨rfl, rfl⟩, rfl, -⟩ := returned
    obtain ⟨text, found, stripped⟩ := except_bind_eq_ok.1 stripped
    obtain rfl := Json.eq_under_of_member found
    have annotates : Run.Returns (payloadAnnotations (contentOf body) mediaType) w [] w := by
      rw [payloadAnnotations, if_neg none]
      exact Run.returns_pure.2 ⟨rfl, rfl⟩
    exact ⟨rfl, canonical, rfl, rfl, selected, ⟨_, _, w, if_neg none, typed⟩, stripped,
      ⟨w, w, annotates⟩⟩

theorem makes_of_bodyParameters {operation : Node} {found : List Parameter}
    (returned : Run.Returns (builder.bodyParameters operation context).run s (some found) t) :
    ∃ origins, builder.bodyOrigins operation = .ok origins ∧
      List.Forall₂ (Origin.Makes builder context) origins found := by
  unfold bodyParameters at returned
  obtain ⟨raw, member, returned⟩ := Mapping.returns_read.1 returned
  obtain rfl := Node.eq_under_of_member member
  unfold bodyOrigins
  split at returned
  · rename_i absent
    obtain ⟨rfl, -⟩ := Mapping.returns_pure.1 returned
    exact ⟨[], if_pos absent, .nil⟩
  · rename_i present
    obtain ⟨body, u, own, returned⟩ := Mapping.returns_bind.1 returned
    obtain ⟨resolved, rfl⟩ := returns_resolved.1 own
    obtain ⟨content, member, returned⟩ := Mapping.returns_read.1 returned
    obtain rfl := Node.eq_under_of_member member
    obtain ⟨first, u, carried, returned⟩ := Mapping.returns_bind.1 returned
    obtain ⟨medias, read, returned⟩ := Mapping.returns_read.1 returned
    obtain rfl := Node.eq_held_of_entries read
    obtain ⟨others, u, made, returned⟩ := Mapping.returns_bind.1 returned
    obtain ⟨rfl, rfl⟩ := Mapping.returns_pure.1 returned
    obtain ⟨origins, mapped, makes⟩ := makes_of_mediaParameters made
    have carries := carriesBody_of_payload (Mapping.returns_step.1 carried)
    refine ⟨.payload body :: origins, ?_, .cons carries makes⟩
    rw [if_neg present, resolved, except_ok_bind, headers, mapped]
    rfl

/-! ## Candidates -/

/-- What an operation declares, when it can be mapped: its parameters and those of its path,
which are objects, and what its body brings. -/
structure DeclaresParameters (builder : SignatureBuilder) (operation shared : Node)
    (parameters : List Node)
    (body : List Origin) : Prop where
  resolved : (shared.items ++ (operation.under "parameters").items).mapM builder.resolve =
    .ok parameters
  objects : ∀ node ∈ parameters, ∃ entries, node.value = .object entries
  body : builder.bodyOrigins operation = .ok body

theorem DeclaresParameters.origins {operation shared : Node} {parameters : List Node}
    {body : List Origin}
    (declares : builder.DeclaresParameters operation shared parameters body) :
    builder.origins operation shared = .ok (located (inForce parameters) ++ body) := by
  rw [SignatureBuilder.origins, declares.resolved, except_ok_bind, declares.body]
  rfl

/-- The candidates of an operation are made from its origins, one from each. -/
theorem exists_origins_of_candidates {operation shared : Node} {found : List Parameter}
    (returned : Run.Returns (builder.candidates operation shared context).run s (some found) t) :
    ∃ parameters body, builder.DeclaresParameters operation shared parameters body ∧
      List.Forall₂ (Origin.Makes builder context) (located (inForce parameters) ++ body) found := by
  unfold candidates declaredParameters at returned
  obtain ⟨first, u, searched, returned⟩ := Mapping.returns_bind.1 returned
  obtain ⟨others, v, carried, returned⟩ := Mapping.returns_bind.1 returned
  obtain ⟨rfl, -⟩ := Mapping.returns_pure.1 returned
  obtain ⟨above, walked, searched⟩ := Mapping.returns_read.1 searched
  obtain ⟨own, walked', searched⟩ := Mapping.returns_read.1 searched
  obtain ⟨_, member, walked'⟩ := except_bind_eq_ok.1 walked'
  obtain rfl := Node.eq_under_of_member member
  obtain ⟨kept, w, searched, placed⟩ := Mapping.returns_bind.1 searched
  obtain ⟨nodes, resolved, rfl, objects⟩ := resolved_of_declared searched
  have noText : ∀ raw ∈ above ++ own, ∀ text, raw.value ≠ .str text := by
    intro raw member text
    obtain ⟨node, held, resolved⟩ := exists_of_forall₂_left (mapM_eq_ok_iff.1 resolved) member
    obtain ⟨entries, object⟩ := objects node held
    obtain ⟨entries, isObject⟩ := isObject_of_resolveWithin resolved object
    rw [isObject]
    nofun
  obtain rfl := Node.eq_items_of_elements walked (List.forall_mem_append.1 noText).1
  obtain rfl := Node.eq_items_of_elements walked' (List.forall_mem_append.1 noText).2
  obtain ⟨rest, bodied, makes⟩ := makes_of_bodyParameters carried
  exact ⟨nodes, rest, ⟨resolved, objects, bodied⟩, List.rel_append (makes_of_placed placed) makes⟩

end SignatureBuilder

/-! ## Signatures -/

/-- The first of some parameters for each canonical name. -/
def Parameter.firsts : List Parameter → List Parameter
  | [] => []
  | first :: rest => first :: (firsts rest).filter fun other => other.display != first.display

/-- The required ones of some parameters and then the others. -/
def Parameter.requiredFirst (parameters : List Parameter) : List Parameter :=
  parameters.filter (·.required) ++ parameters.filter (!·.required)

/-- A parameter is the first of its canonical name when none before it has that name. -/
theorem Parameter.mem_firsts_iff {parameter : Parameter} {parameters : List Parameter} :
    parameter ∈ firsts parameters ↔ ∃ front back, parameters = front ++ parameter :: back ∧
      ∀ other ∈ front, other.display ≠ parameter.display := by
  induction parameters with
  | nil =>
      refine iff_of_false List.not_mem_nil ?_
      rintro ⟨front, back, same, -⟩
      exact List.append_ne_nil_of_right_ne_nil front (List.cons_ne_nil _ _) same.symm
  | cons first rest ih =>
      rw [firsts, List.mem_cons, List.mem_filter, bne_iff_ne, ih]
      constructor
      · rintro (rfl | ⟨⟨front, back, rfl, apart⟩, own⟩)
        · exact ⟨[], rest, rfl, nofun⟩
        · exact ⟨first :: front, back, rfl, List.forall_mem_cons.2 ⟨own.symm, apart⟩⟩
      · rintro ⟨front, back, same, apart⟩
        cases front with
        | nil =>
            cases same
            exact .inl rfl
        | cons head front =>
            cases same
            obtain ⟨own, apart⟩ := List.forall_mem_cons.1 apart
            exact .inr ⟨⟨front, back, rfl, apart⟩, own.symm⟩

theorem Parameter.mem_of_mem_firsts {parameter : Parameter} {parameters : List Parameter}
    (member : parameter ∈ firsts parameters) : parameter ∈ parameters := by
  obtain ⟨front, back, rfl, -⟩ := mem_firsts_iff.1 member
  exact List.mem_append_right front List.mem_cons_self

theorem Parameter.mem_requiredFirst {parameter : Parameter} {parameters : List Parameter} :
    parameter ∈ requiredFirst parameters ↔ parameter ∈ parameters :=
  (List.filter_append_perm _ parameters).mem_iff

namespace SignatureBuilder

variable {builder : SignatureBuilder} {functionName method path : String}
  {operation shared : Node} {s t : Session}

theorem eq_firsts_of_distinct {seen : List String} {parameters kept : List Parameter}
    (returned : Run.Returns (distinct functionName seen parameters) s kept t) :
    kept = (Parameter.firsts parameters).filter fun p => !seen.contains p.display := by
  induction parameters generalizing seen kept s with
  | nil => exact (Run.returns_pure.1 returned).1.symm
  | cons first rest ih =>
      unfold distinct at returned
      rw [Parameter.firsts, List.filter_cons, List.filter_filter]
      split at returned
      · rename_i known
        obtain ⟨_, u, -, returned⟩ := Run.returns_bind.1 returned
        rw [ih returned, if_neg (by simpa using known)]
        refine List.filter_congr fun other _ => ?_
        by_cases same : other.display = first.display
        · rw [same, known]
          rfl
        · simp [same]
      · rename_i new
        obtain ⟨others, u, found, returned⟩ := Run.returns_bind.1 returned
        obtain ⟨rfl, rfl⟩ := Run.returns_pure.1 returned
        rw [ih found, if_pos (by simpa using new)]
        congr 1
        refine List.filter_congr fun other _ => ?_
        rw [List.contains_cons, Bool.not_or, Bool.and_comm]
        rfl

/-- The parameters of a signature are the first candidates of each canonical name, the
required ones before the others. -/
theorem exists_origins_of_build {signature : Signature}
    (returned : Run.Returns (builder.build functionName method path operation shared) s
      (some signature) t) :
    ∃ parameters body candidates, builder.DeclaresParameters operation shared parameters body ∧
      List.Forall₂ (Origin.Makes builder (Name.pascal functionName))
        (located (inForce parameters) ++ body) candidates ∧
      signature.parameters = Parameter.requiredFirst (Parameter.firsts candidates) := by
  obtain ⟨candidates, kept, u, v, steps⟩ := returns_build_some.1 returned
  obtain ⟨parameters, body, declares, makes⟩ := exists_origins_of_candidates steps.searched
  have firsts : kept = Parameter.firsts candidates := by
    rw [eq_firsts_of_distinct steps.chosen]
    exact List.filter_eq_self.2 fun p _ => rfl
  exact ⟨parameters, body, candidates, declares, makes, by rw [steps.parameters, firsts]; rfl⟩

/-! ## Operations of a document -/

/-- The node of an operation. -/
def operationAt (document : Node) (path method : String) : Node :=
  ((document.under "paths").under path).under method

/-- The parameters of a path. -/
def sharedAt (document : Node) (path : String) : Node :=
  ((document.under "paths").under path).under "parameters"

/-- The builder for a document and the signature of one of its operations. -/
def buildAt (document : Node) (name path method : String) (configuration : Configuration := {}) :
    Run (SignatureBuilder × Option Signature) := do
  let translator ← Translator.create document
  let builder : SignatureBuilder := { document, translator, configuration }
  return (builder, ← builder.build name method path (operationAt document path method)
    (sharedAt document path))

theorem exists_build_of {document : Node} {name path method : String}
    {configuration : Configuration} {check : Signature → Session → Bool}
    (ok : ((buildAt document name path method configuration).passes {} fun found t =>
      found.2.any fun signature => check signature t) = true) :
    ∃ (builder : SignatureBuilder) (s t : Session) (signature : Signature),
      builder.document = document ∧ builder.configuration = configuration ∧
      Run.Returns (builder.build name method path (operationAt document path method)
        (sharedAt document path)) s (some signature) t ∧ check signature t = true := by
  obtain ⟨⟨builder, signature?⟩, t, returned, checked⟩ := Run.exists_returns_of ok
  obtain ⟨signature, rfl, checked⟩ := (Option.any_eq_true ..).1 checked
  simp only [buildAt, Run.returns_bind, Run.returns_pure, Prod.mk.injEq] at returned
  obtain ⟨translator, s, -, found, u, built, ⟨rfl, rfl⟩, rfl⟩ := returned
  exact ⟨_, s, u, signature, rfl, rfl, built, checked⟩

end SignatureBuilder

end TypedContract
