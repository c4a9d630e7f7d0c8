/-
# TypedContract.Proofs.Signature.Marking -- operations with marked parameters

The second of two operations is the first one with marks on the schemas of some parameters
(`Marking`): of the operation itself, of its path, of the headers of its encodings, in place or
at the ends of references.  The mark is not read when parameters are told apart, so the tasks
of both are the same but for the mark (`Marking.tasks`).

So marks do not decide whether an operation has a signature, but for one case: a header that
gets the mark and whose bare schema leads to a list (`exists_signature_marked_iff`).  Such an
operation is accepted without the mark and refused with it (`marked_list_refused`).

The mark may be written on a parameter of the operation (`exists_signature_own_iff`), on one of
its path (`exists_signature_above_iff`) or on one elsewhere in the document that the operation
refers to, over any number of references (`exists_signature_referred_iff`).
-/
import TypedContract.Proofs.Signature.Following
import TypedContract.Proofs.Signature.Marked
import TypedContract.Proofs.Signature.Resolving

namespace TypedContract

set_option autoImplicit false

variable {α β : Type}

namespace SignatureBuilder

variable {builder builder' : SignatureBuilder} {bare marked : Node} {name : String}
  {s t u : Session}

/-! ## Reading marked parameters -/

/-- The second parameter of the contract is the first one, perhaps with its schema marked. -/
def MayMark (bare marked : Node) : Prop := marked = bare ∨ bare.MarksSchema marked

theorem MayMark.member? (may : MayMark bare marked) (schema : name ≠ "schema")
    (content : name ≠ "content") : marked.value.member? name = bare.value.member? name := by
  rcases may with rfl | marks
  · rfl
  · exact marks.member? schema content

theorem MayMark.member (may : MayMark bare marked) (schema : name ≠ "schema")
    (content : name ≠ "content") : marked.value.member name = bare.value.member name := by
  unfold Json.member
  rw [may.member? schema content]

theorem MayMark.task (may : MayMark bare marked) (kind : ParameterKind) :
    Task.Marked (.parameter kind bare) (.parameter kind marked) := by
  rcases may with rfl | marks
  · exact .same _
  · exact .parameter marks

theorem MayMark.sameKey {first first' second second' : Node} (own : MayMark first first')
    (other : MayMark second second') : sameKey first' second' = sameKey first second := by
  unfold SignatureBuilder.sameKey
  rw [own.member (by decide) (by decide), own.member (by decide) (by decide),
    other.member (by decide) (by decide), other.member (by decide) (by decide)]

theorem MayMark.kindOf (may : MayMark bare marked) : kindOf marked = kindOf bare := by
  unfold SignatureBuilder.kindOf
  rw [may.member? (by decide) (by decide)]

/-- The chains of references from two parts lead to one parameter, perhaps marked, or end in
the same way. -/
def LeadToMarked (builder builder' : SignatureBuilder) (raw raw' : Node) : Prop :=
  Agree MayMark (builder.target raw) (builder'.target raw')

theorem agree_part {related : α → β → Prop} {result : Except Fault α} {result' : Except Fault β}
    (agree : Agree related result result') : Agree related (part result) (part result') := by
  cases agree with
  | ok own => exact .ok own
  | error => exact .error

theorem marked_tasksFor {related : α → β → Prop} {first : Except Stop α} {first' : Except Stop β}
    {next : α → List Task} {next' : β → List Task} (agree : Agree related first first')
    (rest : ∀ a b, related a b → List.Forall₂ Task.Marked (next a) (next' b)) :
    List.Forall₂ Task.Marked (tasksFor first next) (tasksFor first' next') := by
  cases agree with
  | ok own => exact rest _ _ own
  | error => exact .cons (.same _) .nil

theorem agree_inForceFrom {raws raws' kept kept' : List Node}
    (lead : List.Forall₂ (LeadToMarked builder builder') raws raws')
    (keeps : List.Forall₂ MayMark kept kept') :
    Agree (List.Forall₂ MayMark) (builder.inForceFrom kept raws)
      (builder'.inForceFrom kept' raws') := by
  induction lead generalizing kept kept' with
  | nil => exact .ok keeps
  | cons head _ ih =>
      refine head.bind fun parameter parameter' own => ?_
      refine (agree_part ?_).bind fun _ _ placed => ih placed
      exact .read (own.member (by decide) (by decide)) fun _ _ =>
        agree_override MayMark.sameKey own keeps

theorem marked_placedTasks {nodes nodes' : List Node} (may : List.Forall₂ MayMark nodes nodes') :
    List.Forall₂ Task.Marked (placedTasks nodes) (placedTasks nodes') := by
  induction may with
  | nil => exact .nil
  | @cons first first' rest rest' head _ ih =>
      refine marked_tasksFor (agree_part (.of_eq head.kindOf)) fun kind _ same => ?_
      subst same
      cases kind with
      | other =>
          refine marked_tasksFor (agree_part (.of_eq (head.member (by decide) (by decide)))) ?_
          rintro place _ rfl
          refine marked_tasksFor (agree_part (.of_eq (head.member (by decide) (by decide)))) ?_
          rintro name _ rfl
          exact .cons (.same _) ih
      | _ => exact .cons (head.task _) ih

/-! ## Parts of two operations -/

/-- The parts have the same name and are related. -/
def NamedAlike (related : Node → Node → Prop) (entry entry' : String × Node) : Prop :=
  entry'.1 = entry.1 ∧ related entry.2 entry'.2

/-- The entries of a member, none when it counts as absent. -/
def entriesUnder (name : String) (node : Node) : Except Fault (List (String × Node)) := do
  ((← node.member name).orElse (.object [])).entries

/-- The entries of the member of that name are related one by one. -/
def Under (name : String) (related : Node → Node → Prop) (node node' : Node) : Prop :=
  Agree (List.Forall₂ (NamedAlike related)) (entriesUnder name node) (entriesUnder name node')

/-- The contents of two bodies make the same payload, and the headers of their encodings lead
to the same ones, perhaps marked. -/
structure MarksContent (builder builder' : SignatureBuilder) (body body' content content' : Node) :
    Prop where
  payload : ∀ builder context, SignatureBuilder.payload builder body' content' context =
    SignatureBuilder.payload builder body content context
  media : Agree (List.Forall₂ (NamedAlike (Under "encoding" (Under "headers"
    (LeadToMarked builder builder'))))) content.entries content'.entries

/-- The same of two bodies that are there, at the ends of their references. -/
structure MarksBody (builder builder' : SignatureBuilder) (raw raw' : Node) : Prop where
  truthy : raw'.value.truthy = raw.value.truthy
  leads : raw.value.truthy = true → Agree (fun body body' =>
    Agree (fun content content' => MarksContent builder builder' body body'
      (content.orElse (.object [])) (content'.orElse (.object [])))
      (body.member "content") (body'.member "content")) (builder.target raw) (builder'.target raw')

/-- The second operation is the first one with marks on the schemas of some parameters.  The
parameters may stand in the operation, above it or at the ends of references; nothing else
changes that a signature is made of. -/
structure Marking (builder builder' : SignatureBuilder)
    (operation operation' shared shared' : Node) : Prop where
  beside : builder.Beside builder'
  above : Agree (List.Forall₂ (LeadToMarked builder builder')) (shared.orElse (.list [])).elements
    (shared'.orElse (.list [])).elements
  own : Agree (List.Forall₂ (LeadToMarked builder builder'))
    (do ((← operation.member "parameters").orElse (.list [])).elements)
    (do ((← operation'.member "parameters").orElse (.list [])).elements)
  body : Agree (MarksBody builder builder') (operation.member "requestBody")
    (operation'.member "requestBody")
  returnType : ∀ context,
    builder'.returnType operation' context = builder.returnType operation context
  operationId : operation'.value.member "operationId" = operation.value.member "operationId"
  summary : operation'.value.member "summary" = operation.value.member "summary"
  description : operation'.value.member "description" = operation.value.member "description"

theorem agree_namedHeader (may : MayMark bare marked) :
    Agree MayMark (namedHeader bare name) (namedHeader marked name) := by
  rcases may with rfl | marks
  · exact (Agree.refl _).mono fun same => .inl same.symm
  · obtain ⟨_, place⟩ := bare
    obtain ⟨_, place'⟩ := marked
    obtain ⟨entries, entries', rfl, rfl, -⟩ := marks.objects
    exact .ok (.inr ((marks.put_other (by decide) (by decide)).put_other (by decide) (by decide)))

theorem marked_headerTasks {headers headers' : List (String × Node)}
    (lead : List.Forall₂ (NamedAlike (LeadToMarked builder builder')) headers headers') :
    List.Forall₂ Task.Marked (builder.headerTasks headers) (builder'.headerTasks headers') := by
  induction lead with
  | nil => exact .nil
  | @cons header header' rest rest' head _ ih =>
      obtain ⟨name, raw⟩ := header
      obtain ⟨_, raw'⟩ := header'
      obtain ⟨rfl, own⟩ := head
      refine marked_tasksFor (own.bind fun _ _ may => agree_part (agree_namedHeader may)) ?_
      exact fun _ _ may => .cons (may.task _) ih

theorem marked_encodingTasks {encodings encodings' : List (String × Node)}
    (lead : List.Forall₂ (NamedAlike (Under "headers" (LeadToMarked builder builder'))) encodings
      encodings') :
    List.Forall₂ Task.Marked (builder.encodingTasks encodings)
      (builder'.encodingTasks encodings') := by
  induction lead with
  | nil => exact .nil
  | cons head _ ih =>
      exact marked_tasksFor (agree_part head.2) fun _ _ headers =>
        List.rel_append (marked_headerTasks headers) ih

theorem marked_mediaTasks {media media' : List (String × Node)}
    (lead : List.Forall₂ (NamedAlike (Under "encoding" (Under "headers"
      (LeadToMarked builder builder')))) media media') :
    List.Forall₂ Task.Marked (builder.mediaTasks media) (builder'.mediaTasks media') := by
  induction lead with
  | nil => exact .nil
  | cons head _ ih =>
      exact marked_tasksFor (agree_part head.2) fun _ _ encodings =>
        List.rel_append (marked_encodingTasks encodings) ih

theorem marked_bodyTasks {operation operation' : Node}
    (body : Agree (MarksBody builder builder') (operation.member "requestBody")
      (operation'.member "requestBody")) :
    List.Forall₂ Task.Marked (builder.bodyTasks operation) (builder'.bodyTasks operation') := by
  refine marked_tasksFor (agree_part body) fun raw raw' own => ?_
  rw [own.truthy]
  cases present : raw.value.truthy with
  | false => exact .nil
  | true =>
      have agree : Agree (fun found found' : Node × Node =>
          MarksContent builder builder' found.1 found'.1 found.2 found'.2)
          (do
            let body ← builder.target raw
            return (body, (← part (body.member "content")).orElse (.object [])))
          (do
            let body ← builder'.target raw'
            return (body, (← part (body.member "content")).orElse (.object []))) :=
        (own.leads present).bind fun body body' contents =>
          (agree_part contents).bind fun content content' marks => .ok marks
      refine marked_tasksFor agree fun found found' marks => ?_
      exact .cons (.payload marks.payload)
        (marked_tasksFor (agree_part marks.media) fun _ _ media => marked_mediaTasks media)

/-- Marked operations have marked tasks. -/
theorem Marking.tasks {operation operation' shared shared' : Node}
    (marking : Marking builder builder' operation operation' shared shared') :
    List.Forall₂ Task.Marked (builder.tasks operation shared)
      (builder'.tasks operation' shared') := by
  refine List.rel_append (marked_tasksFor ?_ fun nodes nodes' may => marked_placedTasks may)
    (marked_bodyTasks marking.body)
  refine (agree_part marking.above).bind fun first first' lead => ?_
  refine (agree_part marking.own).bind fun more more' leads => ?_
  exact agree_inForceFrom (List.rel_append lead leads) .nil

/-! ## Marked operations -/

section

variable {functionName method path : String} {operation operation' shared shared' : Node}
  {given : List (String × String)}

/-- Which parameters are kept does not depend on more than their names. -/
theorem exists_distinct_of {seen : List String} {ps ps' kept : List Parameter}
    (same : ps'.map Parameter.names = ps.map Parameter.names)
    (returned : Run.Returns (distinct functionName seen ps) s kept t) :
    ∃ kept', Run.Returns (distinct functionName seen ps') s kept' t := by
  induction ps generalizing ps' seen kept s with
  | nil =>
      obtain rfl := List.map_eq_nil_iff.1 same
      exact ⟨kept, returned⟩
  | cons first rest ih =>
      obtain ⟨first', rest', rfl, own, others⟩ := List.map_eq_cons_iff.1 same
      obtain ⟨name, display⟩ := Prod.mk.inj own
      unfold distinct at returned ⊢
      rw [display, name]
      split at returned
      · rename_i known
        rw [if_pos known]
        obtain ⟨_, u, noted, returned⟩ := Run.returns_bind.1 returned
        obtain ⟨kept', further⟩ := ih others returned
        exact ⟨kept', Run.returns_bind.2 ⟨_, u, noted, further⟩⟩
      · rename_i new
        rw [if_neg new]
        obtain ⟨more, u, further, returned⟩ := Run.returns_bind.1 returned
        obtain ⟨-, rfl⟩ := Run.returns_pure.1 returned
        obtain ⟨more', further'⟩ := ih others further
        exact ⟨first' :: more',
          Run.returns_bind.2 ⟨more', u, further', Run.returns_pure.2 ⟨rfl, rfl⟩⟩⟩

/-- What is done once the parameters are found comes back. -/
def Ends (builder : SignatureBuilder) (context : String) (operation : Node) (s t : Session) : Prop :=
  (∃ operationId, operation.value.member "operationId" = .ok operationId) ∧
  (∃ type, Run.Returns (builder.returnType operation context) s type t) ∧
  ∃ description, describe operation = .ok description

/-- When an operation has a signature. -/
theorem exists_signature_iff :
    (∃ signature, Run.Returns (builder.build functionName method path operation shared) s
      (some signature) t) ↔
      ∃ given u v, (∃ ps, Run.Returns (builder.perform (Name.pascal functionName)
          (builder.tasks operation shared)).run s (some ps) u ∧ ps.map Parameter.names = given) ∧
        (∃ ps kept, ps.map Parameter.names = given ∧
          Run.Returns (distinct functionName [] ps) u kept v) ∧
        builder.Ends (Name.pascal functionName) operation v t := by
  rw [← candidates_eq_perform]
  simp only [returns_build_some]
  constructor
  · rintro ⟨signature, candidates, kept, u, v, steps⟩
    exact ⟨_, u, v, ⟨candidates, steps.searched, rfl⟩, ⟨candidates, kept, rfl, steps.chosen⟩,
      ⟨_, steps.identified⟩, ⟨_, steps.typed⟩, _, steps.described⟩
  · rintro ⟨_, u, v, ⟨candidates, searched, rfl⟩, ⟨ps, kept, same, chosen⟩, ⟨id, identified⟩,
      ⟨type, typed⟩, description, described⟩
    obtain ⟨kept', chosen'⟩ := exists_distinct_of same.symm chosen
    let signature : Signature :=
      { functionName := functionName
        operationId := id
        method := method
        path := path
        parameters := kept'.filter (·.required) ++ kept'.filter (!·.required)
        returnType := type
        description := description }
    exact ⟨signature, candidates, kept', u, v, searched, chosen', identified, typed, described, rfl,
      rfl, rfl, rfl⟩

/-- What is done once the parameters are found does not read marks. -/
theorem Marking.ends_iff (marking : Marking builder builder' operation operation' shared shared')
    {context : String} :
    builder'.Ends context operation' s t ↔ builder.Ends context operation s t := by
  unfold Ends describe
  rw [marking.returnType, marking.operationId, marking.summary, marking.description]

/-- Operations with marked tasks that end alike differ by a header only. -/
theorem exists_signature_iff_of_tasks (beside : builder.Beside builder')
    (tasks : List.Forall₂ Task.Marked (builder.tasks operation shared)
      (builder'.tasks operation' shared'))
    (ends : ∀ v, builder'.Ends (Name.pascal functionName) operation' v t ↔
      builder.Ends (Name.pascal functionName) operation v t) :
    (∃ signature, Run.Returns (builder'.build functionName method path operation' shared') s
        (some signature) t) ↔
      (∃ signature, Run.Returns (builder.build functionName method path operation shared) s
        (some signature) t) ∧
      ¬ builder.ListsHeader (Name.pascal functionName) (builder.tasks operation shared)
        (builder'.tasks operation' shared') s := by
  simp only [exists_signature_iff, ends, exists_perform_marked_iff beside tasks]
  constructor
  · rintro ⟨given, u, v, ⟨performed, apart⟩, chosen, ended⟩
    exact ⟨⟨given, u, v, performed, chosen, ended⟩, apart⟩
  · rintro ⟨⟨given, u, v, performed, chosen, ended⟩, apart⟩
    exact ⟨given, u, v, ⟨performed, apart⟩, chosen, ended⟩

/-- An operation with marks has a signature exactly when the bare one has one and no header
that is marked has a schema that, bare and in its turn, leads to a list; then both leave the
same session. -/
theorem exists_signature_marked_iff
    (marking : Marking builder builder' operation operation' shared shared') :
    (∃ signature, Run.Returns (builder'.build functionName method path operation' shared') s
        (some signature) t) ↔
      (∃ signature, Run.Returns (builder.build functionName method path operation shared) s
        (some signature) t) ∧
      ¬ builder.ListsHeader (Name.pascal functionName) (builder.tasks operation shared)
        (builder'.tasks operation' shared') s :=
  exists_signature_iff_of_tasks marking.beside marking.tasks fun _ => marking.ends_iff

end

/-! ## Writing a mark -/

section

variable {functionName method path : String} {operation shared : Node} {place : Option Place}

theorem agree_of_refl {related : α → α → Prop} (refl : ∀ a, related a a) (found : Except Fault α) :
    Agree related found found :=
  (Agree.refl found).mono fun same => same ▸ refl _

theorem forall₂_of_refl {related : α → α → Prop} (refl : ∀ a, related a a) (xs : List α) :
    List.Forall₂ related xs xs :=
  List.forall₂_same.2 fun a _ => refl a

theorem Under.of_refl {related : Node → Node → Prop} (refl : ∀ node, related node node)
    (node : Node) : Under name related node node :=
  agree_of_refl (forall₂_of_refl fun _ => ⟨rfl, refl _⟩) _

theorem leadToMarked_refl (raw : Node) : LeadToMarked builder builder raw raw :=
  (Agree.refl _).mono fun same => .inl same.symm

theorem marksBody_refl (raw : Node) : MarksBody builder builder raw raw :=
  ⟨rfl, fun _ => (Agree.refl _).mono fun {body body'} same => by
    subst same
    refine agree_of_refl (fun content => ⟨fun _ _ => rfl, ?_⟩) _
    exact agree_of_refl (forall₂_of_refl fun _ =>
      ⟨rfl, Under.of_refl (Under.of_refl leadToMarked_refl) _⟩) _⟩

/-- The builder finds the object at the end of a chain of references. -/
theorem target_of_chain {raw last : Node} {texts : List String}
    (chain : RefChain builder.document raw texts last)
    (object : ∃ entries, last.value = .object entries) (final : reference? last = none) :
    builder.target raw = .ok last := by
  have resolved : builder.resolve raw = .ok last :=
    (resolves_of_weight_le (chain.objects object final) (Nat.le_refl _)).eq_ok_iff.2
      ⟨⟨texts, chain⟩, final⟩
  rw [target, resolved]

/-- The second object is the first one with a true mark on its schema, which had none. -/
inductive MarksInline : Json → Json → Prop where
  | mark {parameter schema : List (String × Json)} {flag : Json}
      (inline : Json.find? "$ref" parameter = none)
      (typed : Json.find? "schema" parameter = some (.object schema))
      (off : ((Json.find? "nullable" schema).getD .null).truthy = false)
      (on : flag.truthy = true) :
      MarksInline (.object parameter) (.object (Json.put "schema"
        (.object (Json.put "nullable" flag schema)) parameter))

theorem MarksInline.mayMark {bare marked : Json} (marks : MarksInline bare marked) :
    MayMark ⟨bare, place⟩ ⟨marked, place⟩ := by
  obtain ⟨-, typed, off, on⟩ := marks
  exact .inr (.put_mark typed off on)

/-- Neither parameter is a reference. -/
theorem MarksInline.final {bare marked : Json} (marks : MarksInline bare marked) :
    ((∃ entries, bare = .object entries) ∧ reference? ⟨bare, place⟩ = none) ∧
      (∃ entries, marked = .object entries) ∧ reference? ⟨marked, place⟩ = none := by
  obtain ⟨inline, -, -, -⟩ := marks
  exact ⟨⟨⟨_, rfl⟩, inline⟩, ⟨_, rfl⟩, (Json.find?_put_of_ne (by decide)).trans inline⟩

/-- Chains of references to a parameter and to the same one with a mark. -/
theorem MarksInline.lead {bare marked : Json} {raw raw' : Node} {texts texts' : List String}
    (marks : MarksInline bare marked) (chain : RefChain builder.document raw texts ⟨bare, place⟩)
    (chain' : RefChain builder'.document raw' texts' ⟨marked, place⟩) :
    LeadToMarked builder builder' raw raw' := by
  obtain ⟨⟨object, final⟩, object', final'⟩ := marks.final
  unfold LeadToMarked
  rw [target_of_chain chain object final, target_of_chain chain' object' final']
  exact .ok marks.mayMark

/-- A walk over the parameters after one of them got a mark. -/
theorem agree_elements {front back : List Json} {bare marked : Json}
    (marks : MarksInline bare marked) :
    Agree (List.Forall₂ (LeadToMarked builder builder))
      (Node.orElse ⟨.list (front ++ bare :: back), place⟩ (.list [])).elements
      (Node.orElse ⟨.list (front ++ marked :: back), place⟩ (.list [])).elements := by
  have walked (value : Json) :
      (Node.orElse ⟨.list (front ++ value :: back), place⟩ (.list [])).elements =
        .ok (Node.childrenFrom ⟨.null, place⟩ 0 (front ++ value :: back)) := by
    unfold Node.orElse
    rw [if_pos (by simp [Json.truthy])]
    exact congrArg Except.ok Node.childrenFrom_eq
  rw [walked, walked]
  exact .ok (Node.forall₂_childrenFrom leadToMarked_refl (fun _ => marks.lead .here .here) 0)

/-- One of the parameters of the operation itself gets a mark. -/
theorem marking_own {entries : List (String × Json)} {front back : List Json} {bare marked : Json}
    (marks : MarksInline bare marked)
    (listed : Json.find? "parameters" entries = some (.list (front ++ bare :: back))) :
    Marking builder builder ⟨.object entries, place⟩
      ⟨.object (Json.put "parameters" (.list (front ++ marked :: back)) entries), place⟩
      shared shared := by
  obtain ⟨inner, read, read'⟩ :=
    Node.exists_member_put place (.list (front ++ marked :: back)) listed
  have rest {name : String} (apart : name ≠ "parameters") : Node.member
      ⟨.object (Json.put "parameters" (.list (front ++ marked :: back)) entries), place⟩ name =
        Node.member ⟨.object entries, place⟩ name := Node.member_put apart
  have said {name : String} (apart : name ≠ "parameters") : Json.member
      (.object (Json.put "parameters" (.list (front ++ marked :: back)) entries)) name =
        Json.member (.object entries) name :=
    congrArg (fun found : Option Json => Except.ok (found.getD .null)) (Json.find?_put_of_ne apart)
  refine ⟨⟨rfl, rfl⟩, agree_of_refl (forall₂_of_refl leadToMarked_refl) _, ?_, ?_,
    fun context => ?_, said (by decide), said (by decide), said (by decide)⟩
  · rw [read, read']
    exact agree_elements marks
  · rw [rest (by decide)]
    exact agree_of_refl marksBody_refl _
  · unfold SignatureBuilder.returnType
    rw [rest (by decide)]

/-- A mark on a parameter of the operation itself decides at a header only. -/
theorem exists_signature_own_iff {entries : List (String × Json)} {front back : List Json}
    {bare marked : Json} (marks : MarksInline bare marked)
    (listed : Json.find? "parameters" entries = some (.list (front ++ bare :: back))) :
    let operation : Node := ⟨.object entries, place⟩
    let operation' : Node :=
      ⟨.object (Json.put "parameters" (.list (front ++ marked :: back)) entries), place⟩
    (∃ signature, Run.Returns (builder.build functionName method path operation' shared) s
        (some signature) t) ↔
      (∃ signature, Run.Returns (builder.build functionName method path operation shared) s
        (some signature) t) ∧
      ¬ builder.ListsHeader (Name.pascal functionName) (builder.tasks operation shared)
        (builder.tasks operation' shared) s := by
  intro operation operation'
  have marking : Marking builder builder operation operation' shared shared :=
    marking_own marks listed
  exact exists_signature_iff_of_tasks marking.beside marking.tasks fun _ => marking.ends_iff

/-- One of the parameters of the path gets a mark. -/
theorem marking_above {front back : List Json} {bare marked : Json}
    (marks : MarksInline bare marked) :
    Marking builder builder operation operation ⟨.list (front ++ bare :: back), place⟩
      ⟨.list (front ++ marked :: back), place⟩ :=
  ⟨⟨rfl, rfl⟩, agree_elements marks, agree_of_refl (forall₂_of_refl leadToMarked_refl) _,
    agree_of_refl marksBody_refl _, fun _ => rfl, rfl, rfl, rfl⟩

/-- So does a mark on a parameter of the path. -/
theorem exists_signature_above_iff {front back : List Json} {bare marked : Json}
    (marks : MarksInline bare marked) :
    let above : Node := ⟨.list (front ++ bare :: back), place⟩
    let above' : Node := ⟨.list (front ++ marked :: back), place⟩
    (∃ signature, Run.Returns (builder.build functionName method path operation above') s
        (some signature) t) ↔
      (∃ signature, Run.Returns (builder.build functionName method path operation above) s
        (some signature) t) ∧
      ¬ builder.ListsHeader (Name.pascal functionName) (builder.tasks operation above)
        (builder.tasks operation above') s := by
  intro above above'
  have marking : Marking builder builder operation operation above above' := marking_above marks
  exact exists_signature_iff_of_tasks marking.beside marking.tasks fun _ => marking.ends_iff

/-! ## A mark at the end of references -/

/-- In both documents the part leads over references to the same parameter, or the second
document has that parameter with a mark. -/
inductive EndsMarked (builder builder' : SignatureBuilder) (raw : Node) : Prop where
  | same {last : Node} {texts texts' : List String}
      (chain : RefChain builder.document raw texts last)
      (chain' : RefChain builder'.document raw texts' last)
      (object : ∃ entries, last.value = .object entries) (final : reference? last = none) :
      EndsMarked builder builder' raw
  | marked {bare marked : Json} {place : Option Place} {texts texts' : List String}
      (chain : RefChain builder.document raw texts ⟨bare, place⟩)
      (chain' : RefChain builder'.document raw texts' ⟨marked, place⟩)
      (marks : MarksInline bare marked) : EndsMarked builder builder' raw

theorem EndsMarked.lead {raw : Node} (ends : EndsMarked builder builder' raw) :
    LeadToMarked builder builder' raw raw := by
  cases ends with
  | same chain chain' object final =>
      unfold LeadToMarked
      rw [target_of_chain chain object final, target_of_chain chain' object final]
      exact .ok (.inl rfl)
  | marked chain chain' marks => exact marks.lead chain chain'

/-- The operation itself stays as it is, and the documents differ at the ends of the references
of its parameters, by marks. -/
structure MarksReferred (builder builder' : SignatureBuilder) (operation shared : Node) : Prop where
  beside : builder.Beside builder'
  above : ∃ raws, (shared.orElse (.list [])).elements = .ok raws ∧
    ∀ raw ∈ raws, EndsMarked builder builder' raw
  own : ∃ raws, (do ((← operation.member "parameters").orElse (.list [])).elements) =
    Except.ok raws ∧ ∀ raw ∈ raws, EndsMarked builder builder' raw
  body : Agree (MarksBody builder builder') (operation.member "requestBody")
    (operation.member "requestBody")
  returnType : ∀ context,
    builder'.returnType operation context = builder.returnType operation context

theorem MarksReferred.marking (referred : MarksReferred builder builder' operation shared) :
    Marking builder builder' operation operation shared shared := by
  obtain ⟨beside, ⟨raws, above, ends⟩, ⟨raws', own, ends'⟩, body, returnType⟩ := referred
  refine ⟨beside, ?_, ?_, body, returnType, rfl, rfl, rfl⟩
  · rw [above]
    exact .ok (List.forall₂_same.2 fun raw member => (ends raw member).lead)
  · rw [own]
    exact .ok (List.forall₂_same.2 fun raw member => (ends' raw member).lead)

/-- So does a mark on a parameter that stands elsewhere in the document. -/
theorem exists_signature_referred_iff
    (referred : MarksReferred builder builder' operation shared) :
    (∃ signature, Run.Returns (builder'.build functionName method path operation shared) s
        (some signature) t) ↔
      (∃ signature, Run.Returns (builder.build functionName method path operation shared) s
        (some signature) t) ∧
      ¬ builder.ListsHeader (Name.pascal functionName) (builder.tasks operation shared)
        (builder'.tasks operation shared) s :=
  have marking := referred.marking
  exists_signature_iff_of_tasks marking.beside marking.tasks fun _ => marking.ends_iff

end

/-! ## A header with a mark -/

/-- The schema with a mark. -/
def nullable (schema : List (String × Json)) : List (String × Json) :=
  Json.put "nullable" (.bool true) schema

/-- A contract whose one operation has a header of a schema. -/
def headerContract (schema : List (String × Json)) : Node := .root 0 (.object [
    ("paths", .object [("/pets", .object [("get", .object [("parameters", .list [
      .object [("name", .str "X-Tags"), ("in", .str "header"), ("schema", .object schema)]])])])])])

/-- The operation with the header. -/
def headerOperation (schema : List (String × Json)) : Node :=
  operationAt (headerContract schema) "/pets" "get"

/-- The parameters of the path of the operation. -/
def headerShared (schema : List (String × Json)) : Node :=
  sharedAt (headerContract schema) "/pets"

theorem marking_headerContract {builder builder' : SignatureBuilder}
    (beside : builder.Beside builder') {schema : List (String × Json)}
    (off : ((Json.find? "nullable" schema).getD .null).truthy = false) :
    Marking builder builder' (headerOperation schema) (headerOperation (nullable schema))
      (headerShared schema) (headerShared (nullable schema)) := by
  have silent (builder : SignatureBuilder) (schema : List (String × Json)) (context : String) :
      builder.returnType (headerOperation schema) context = pure none := by
    change builder.returnTypeOf _ context ([].mergeSort fun a b => !(b < a)) = _
    rw [List.mergeSort_nil]
    rfl
  exact ⟨beside, .ok .nil, .ok (.cons ((MarksInline.mark rfl rfl off rfl).lead .here .here) .nil),
    .ok ⟨rfl, nofun⟩, fun context => (silent ..).trans (silent ..).symm, rfl, rfl, rfl⟩

theorem exists_signature_marked_iff_integer : ∃ (builder builder' : SignatureBuilder)
    (schema : List (String × Json)) (s t : Session),
    builder.document = headerContract schema ∧ builder'.document = headerContract (nullable schema) ∧
    Marking builder builder' (headerOperation schema) (headerOperation (nullable schema))
      (headerShared schema) (headerShared (nullable schema)) ∧
    (∃ signature, Run.Returns (builder'.build "listPets" "get" "/pets"
      (headerOperation (nullable schema)) (headerShared (nullable schema))) s (some signature) t) ∧
    ((∃ signature, Run.Returns (builder'.build "listPets" "get" "/pets"
        (headerOperation (nullable schema)) (headerShared (nullable schema))) s (some signature) t) ↔
      (∃ signature, Run.Returns (builder.build "listPets" "get" "/pets"
        (headerOperation schema) (headerShared schema)) s (some signature) t) ∧
      ¬ builder.ListsHeader (Name.pascal "listPets")
        (builder.tasks (headerOperation schema) (headerShared schema))
        (builder'.tasks (headerOperation (nullable schema)) (headerShared (nullable schema))) s) := by
  let schema : List (String × Json) := [("type", .str "integer")]
  have ok : ((buildAt (headerContract (nullable schema)) "listPets" "/pets" "get").passes {}
      fun found _ => found.2.any fun _ => true) = true := by decide +kernel
  obtain ⟨builder', s, t, signature, same, -, returned, -⟩ := exists_build_of ok
  let builder : SignatureBuilder := { builder' with document := headerContract schema }
  have marking := @marking_headerContract builder builder' ⟨rfl, rfl⟩ schema rfl
  exact ⟨builder, builder', schema, s, t, rfl, same, marking, ⟨signature, returned⟩,
    exists_signature_marked_iff marking⟩

/-- A header that is a list is accepted, and refused once its schema is marked. -/
theorem marked_list_refused : ∃ (schema : List (String × Json)) (builder builder' : SignatureBuilder)
    (signature : Signature) (t t' : Session),
    Run.Returns (buildAt (headerContract schema) "listPets" "/pets" "get") {}
      (builder, some signature) t ∧
    Run.Returns (buildAt (headerContract (nullable schema)) "listPets" "/pets" "get") {}
      (builder', none) t' := by
  let schema : List (String × Json) :=
    [("type", .str "array"), ("items", .object [("type", .str "string")])]
  have accepted : ((buildAt (headerContract schema) "listPets" "/pets" "get").passes {}
      fun found _ => found.2.isSome) = true := by decide +kernel
  have refused : ((buildAt (headerContract (nullable schema)) "listPets" "/pets" "get").passes {}
      fun found _ => found.2.isNone) = true := by decide +kernel
  obtain ⟨⟨builder, found⟩, t, returned, isSome⟩ := Run.exists_returns_of accepted
  obtain ⟨⟨builder', found'⟩, t', returned', isNone⟩ := Run.exists_returns_of refused
  obtain ⟨signature, rfl⟩ := Option.isSome_iff_exists.1 isSome
  obtain rfl := Option.isNone_iff_eq_none.1 isNone
  exact ⟨schema, builder, builder', signature, t, t', returned, returned'⟩

end SignatureBuilder

end TypedContract
