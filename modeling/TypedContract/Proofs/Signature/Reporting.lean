/-
# TypedContract.Proofs.Signature.Reporting -- a failure is reported exactly when it happens

`Session.Tells true s t` says that only asides were added to the diagnostics between two
sessions, and `Session.Tells false s t` that a refusal came after them, the reason why an
operation is given up.  Translations, examples and defaults tell asides
(`Translation.Derives.tells_asides`, `Run.Quiet`); a search for parameters tells a refusal exactly
when it finds none (`Mapping.Tells`), since a refusal is what gives it up and nothing follows
on it.

The search is a list of tasks (`SignatureBuilder.candidates_eq_perform`), so one case for each
kind of task says this of all of it (`tells_perform`).  An operation that is given up drops
its types and is reported after its refusal; one that is not tells asides to its end
(`SignatureBuilder.reports_of_build`).
-/
import TypedContract.Proofs.Signature.Keeping
import TypedContract.Proofs.Signature.Origins
import TypedContract.Proofs.Signature.Tasks

namespace TypedContract

set_option autoImplicit false

variable {α β : Type} {s t u : Session}

/-! ## Diagnostics between two sessions -/

/-- The code says why an operation is given up. -/
def Diagnostic.Code.refuses : Diagnostic.Code → Bool
  | .invalidPathParameter | .invalidHeaderParameter | .unresolvedParameter => true
  | _ => false

/-- The diagnostic is about something else than an operation that is given up. -/
def Diagnostic.isAside (diagnostic : Diagnostic) : Bool :=
  !diagnostic.code.refuses && diagnostic.code != .signatureFailed

/-- The diagnostics are asides, and at their end stands a refusal unless all went well. -/
def Diagnostic.Tell : Bool → List Diagnostic → Prop
  | true, told => ∀ diagnostic ∈ told, diagnostic.isAside = true
  | false, told => ∃ asides refusal, told = asides ++ [refusal] ∧
      (∀ diagnostic ∈ asides, diagnostic.isAside = true) ∧ refusal.code.refuses = true

namespace Session

/-- Between the sessions asides are told, and at last a refusal unless all went well. -/
def Tells (well : Bool) (s t : Session) : Prop :=
  ∃ told, t.diagnostics = s.diagnostics ++ told ∧ Diagnostic.Tell well told

namespace Tells

variable {well : Bool}

theorem of_eq (same : t.diagnostics = s.diagnostics) : s.Tells true t :=
  ⟨[], by rw [same, List.append_nil], fun _ none => absurd none List.not_mem_nil⟩

theorem trans (first : s.Tells true t) (second : t.Tells well u) : s.Tells well u := by
  obtain ⟨told, same, asides⟩ := first
  obtain ⟨more, same', rest⟩ := second
  refine ⟨told ++ more, by rw [same', same, List.append_assoc], ?_⟩
  cases well with
  | true => exact List.forall_mem_append.2 ⟨asides, rest⟩
  | false =>
      obtain ⟨others, refusal, rfl, quiet, refuses⟩ := rest
      exact ⟨told ++ others, refusal, (List.append_assoc ..).symm,
        List.forall_mem_append.2 ⟨asides, quiet⟩, refuses⟩

theorem aside {diagnostic : Diagnostic} (told : t.diagnostics = s.diagnostics ++ [diagnostic])
    (aside : diagnostic.isAside = true) : s.Tells true t :=
  ⟨_, told, fun _ one => List.mem_singleton.1 one ▸ aside⟩

theorem refusal {diagnostic : Diagnostic} (told : t.diagnostics = s.diagnostics ++ [diagnostic])
    (refuses : diagnostic.code.refuses = true) : s.Tells false t :=
  ⟨_, told, [], diagnostic, rfl, fun _ none => absurd none List.not_mem_nil, refuses⟩

end Tells

end Session

/-! ## Translations -/

/-- A translation tells asides. -/
theorem Translation.Derives.tells_asides {schemas : Node} {judgement : Judgement}
    (derived : Derives schemas judgement) : judgement.start.Tells true judgement.finish :=
  derived.relates {
    refl := fun _ => .of_eq rfl
    trans := .trans
    reported := fun {s code args} own => .aside rfl (by
      simp only [List.mem_cons, List.not_mem_nil, or_false] at own
      rcases own with rfl | rfl | rfl <;> rfl)
    hoisting := .of_eq rfl
    registration := fun _ inside => inside
    rebuilt := fun _ inside => inside }

/-! ## Steps that tell asides -/

/-- Where the step comes back, it has told asides. -/
structure Run.Quiet (step : Run α) : Prop where
  tells : ∀ {s t : Session} {a : α}, Run.Returns step s a t → s.Tells true t

namespace Run.Quiet

theorem pure {a : α} : Quiet (Pure.pure a) :=
  ⟨fun returned => .of_eq (by rw [(Run.returns_pure.1 returned).2])⟩

theorem bind {first : Run β} {next : β → Run α} (head : Quiet first) (tail : ∀ b, Quiet (next b)) :
    Quiet (first >>= next) := by
  refine ⟨fun returned => ?_⟩
  obtain ⟨b, u, one, rest⟩ := Run.returns_bind.1 returned
  exact (head.tells one).trans ((tail b).tells rest)

theorem map {first : Run β} {f : β → α} (head : Quiet first) : Quiet (f <$> first) := by
  rw [map_eq_pure_bind]
  exact head.bind fun _ => .pure

theorem lift {result : Except Fault α} : Quiet (Run.lift result) :=
  ⟨fun returned => .of_eq (by rw [(Run.returns_lift.1 returned).2])⟩

theorem registry : Quiet Run.registry :=
  ⟨fun returned => .of_eq (by rw [(Run.returns_registry.1 returned).2])⟩

theorem throw {fault : Fault} : Quiet (MonadExcept.throw fault : Run α) :=
  ⟨fun returned => absurd returned Run.not_returns_throw⟩

theorem note {level : Log.Level} {source : Log.Source} {message : String} :
    Quiet (Run.note level source message) :=
  ⟨fun returned => .of_eq (by rw [← Run.returns_note.1 returned])⟩

theorem report {code : Diagnostic.Code} {args : List String}
    (aside : (!code.refuses && code != .signatureFailed) = true) :
    Quiet (Run.report code args) := by
  refine ⟨fun returned => ?_⟩
  obtain rfl := Run.returns_report.1 returned
  exact .aside rfl aside

/-- A result that is only read. -/
theorem read {result : Except Fault β} {next : β → Run α} (tail : ∀ b, Quiet (next b)) :
    Quiet (Run.lift result >>= next) :=
  .bind .lift tail

theorem annotate {which : Example.Which} {value : Literal} {name : String} :
    Quiet (Example.annotate which value name) := by
  unfold Example.annotate
  split
  · exact .pure
  · exact .bind (.report rfl) fun _ => .pure
  · exact .throw

theorem annotationsFor {node : Json} {name : String} : Quiet (Example.annotationsFor node name) := by
  refine .read fun example? => .read fun examples => ?_
  unfold Example.annotateBoth
  split
  · exact .pure
  · exact .annotate
  · exact .annotate
  · exact .bind (.report rfl) fun _ => .pure

end Run.Quiet

/-! ## Searches that may give an operation up -/

/-- Where the search comes back, it has told a refusal exactly when it found nothing. -/
structure Mapping.Tells (step : Mapping α) : Prop where
  tells : ∀ {s t : Session} {found : Option α}, Run.Returns step.run s found t →
    s.Tells found.isSome t

namespace Mapping.Tells

theorem pure {a : α} : Tells (Pure.pure a) := by
  refine ⟨fun returned => ?_⟩
  obtain ⟨rfl, rfl⟩ := Run.returns_pure.1 returned
  exact .of_eq rfl

theorem bind {first : Mapping β} {next : β → Mapping α} (head : Tells first)
    (tail : ∀ b, Tells (next b)) : Tells (first >>= next) := by
  refine ⟨fun returned => ?_⟩
  rw [OptionT.run_bind] at returned
  obtain ⟨found, u, one, rest⟩ := Run.returns_bind.1 returned
  cases found with
  | some b => exact (head.tells one).trans ((tail b).tells rest)
  | none =>
      obtain ⟨rfl, rfl⟩ := Run.returns_pure.1 rest
      exact head.tells one

/-- A step that always goes on. -/
theorem step {first : Run α} (quiet : Run.Quiet first) : Tells (OptionT.lift first) := by
  refine ⟨fun returned => ?_⟩
  rw [OptionT.run_lift] at returned
  obtain ⟨a, u, one, rest⟩ := Run.returns_bind.1 returned
  obtain ⟨rfl, rfl⟩ := Run.returns_pure.1 rest
  exact quiet.tells one

theorem lift {result : Except Fault α} : Tells (Mapping.lift result) := step .lift

/-- A result that is only read. -/
theorem read {result : Except Fault β} {next : β → Mapping α} (tail : ∀ b, Tells (next b)) :
    Tells (Mapping.lift result >>= next) :=
  .bind .lift tail

theorem giveUp {code : Diagnostic.Code} {args : List String} (refuses : code.refuses = true) :
    Tells (Mapping.giveUp code args : Mapping α) := by
  refine ⟨fun {s t found} returned => ?_⟩
  unfold Mapping.giveUp at returned
  rw [OptionT.run_bind, OptionT.run_lift] at returned
  obtain ⟨reported, u, first, rest⟩ := Run.returns_bind.1 returned
  obtain ⟨_, _, told, again⟩ := Run.returns_bind.1 first
  obtain ⟨rfl, rfl⟩ := Run.returns_pure.1 again
  obtain ⟨rfl, rfl⟩ := Run.returns_pure.1 rest
  obtain rfl := Run.returns_report.1 told
  exact .refusal rfl refuses

theorem checkType {kind : ParameterKind} {type : Ty} {name : String} :
    Tells (SignatureBuilder.checkType kind type name) := by
  refine .bind (.step .registry) fun registry => ?_
  cases kind with
  | path =>
      refine .read fun fits => ?_
      cases fits with
      | false => exact .giveUp rfl
      | true => exact .pure
  | header =>
      refine .read fun fits => ?_
      cases fits with
      | false => exact .giveUp rfl
      | true => exact .pure
  | _ => exact .pure

end Mapping.Tells

namespace SignatureBuilder

variable {builder : SignatureBuilder} {context : String}

section

variable (translates : ∀ {node : Node} {context : String},
  Run.Quiet (builder.translator.translateNode node context))

include translates

theorem quiet_typeAndDefault {schema : Node} {name : String} :
    Run.Quiet (builder.typeAndDefault schema name context) := by
  unfold typeAndDefault
  split
  · exact .pure
  · refine .bind translates fun type => .read fun default => ?_
    split
    · exact .bind (.report rfl) fun _ => .pure
    · exact .pure

theorem tells_parameter {raw : Node} {kind : ParameterKind} :
    Mapping.Tells (builder.parameter raw kind context) := by
  refine .read fun named => .read fun schema => .read fun name => ?_
  refine .bind (.step (quiet_typeAndDefault translates)) fun found => ?_
  refine .bind .checkType fun _ => .read fun flag => .read fun text => ?_
  exact .bind (.step .annotationsFor) fun annotations => .pure

theorem quiet_payload {body content : Node} :
    Run.Quiet (builder.payload body content context) := by
  unfold payload
  refine .read fun mediaType => ?_
  cases mediaType.truthy with
  | true =>
      refine .read fun schema => .bind translates fun type => .read fun text => ?_
      exact .read fun media => .bind .annotationsFor fun annotations => .pure
  | false =>
      refine .bind .pure fun schema => .bind translates fun type => .read fun text => ?_
      exact .bind .pure fun annotations => .pure

omit translates in
theorem quiet_noteSkipped {place name : Json} : Run.Quiet (noteSkipped place name) := by
  unfold noteSkipped
  split
  · exact .note
  · exact .pure

/-- Performing tasks tells a refusal exactly when it ends without parameters. -/
theorem tells_perform {tasks : List Task} : Mapping.Tells (builder.perform context tasks) := by
  induction tasks with
  | nil => exact .pure
  | cons task rest ih =>
      have first : Mapping.Tells (task.perform builder context) := by
        cases task with
        | skip place name => exact .bind (.step quiet_noteSkipped) fun _ => .pure
        | parameter kind node => exact .bind (tells_parameter translates) fun _ => .pure
        | payload body content =>
            exact .bind (.step (quiet_payload translates)) fun _ => .pure
        | stop why =>
            cases why with
            | nowhere ref => exact .giveUp rfl
            | fault why => exact .lift
      exact .bind first fun _ => .bind ih fun _ => .pure

theorem quiet_returnTypeOf {responses : Node} {statuses : List String} :
    Run.Quiet (builder.returnTypeOf responses context statuses) := by
  induction statuses with
  | nil => exact .pure
  | cons status rest ih =>
      unfold returnTypeOf
      split
      · exact ih
      · refine .read fun response => .read fun _ => ?_
        split
        · exact ih
        · exact .throw
        · refine .read fun schema? => ?_
          cases schema? with
          | none => exact ih
          | some schema => exact .map translates

end

theorem quiet_distinct {functionName : String} {seen : List String} {parameters : List Parameter} :
    Run.Quiet (distinct functionName seen parameters) := by
  induction parameters generalizing seen with
  | nil => exact .pure
  | cons parameter rest ih =>
      unfold distinct
      split
      · exact .bind .note fun _ => ih
      · exact .bind ih fun _ => .pure

/-! ## Signatures -/

/-- A translator made for a document tells asides. -/
theorem quiet_translateNode {translator : Translator} {document : Node}
    (created : Run.Returns (Translator.create document) s translator t) {node : Node} :
    Run.Quiet (translator.translateNode node context) := by
  refine ⟨fun returned => ?_⟩
  obtain ⟨schema, -, derived⟩ :=
    Translator.derives_translateNode (Translator.sound_create created) returned
  exact derived.tells_asides

/-- The search for parameters only adds to the session. -/
theorem grows_of_candidates {document operation shared : Node}
    (created : Run.Returns (Translator.create document) s builder.translator t)
    {found : Option (List Parameter)} {v : Session}
    (searched : Run.Returns (builder.candidates operation shared context).run u found v) :
    u.Grows v := by
  have outlasting : Outlasting fun _ => True :=
    ⟨fun _ _ _ => trivial, fun _ _ _ => trivial⟩
  have translates : ∀ {node : Node} {context : String},
      Run.Keeps (fun _ => True) (builder.translator.translateNode node context) := by
    refine ⟨fun returned _ => ?_⟩
    obtain ⟨schema, -, derived⟩ :=
      Translator.derives_translateNode (Translator.sound_create created) returned
    exact ⟨derived.grows, trivial⟩
  have keeps : Mapping.KeepsTo (fun _ _ step _ => Run.Keeps (fun _ => True) step) []
      (builder.candidates operation shared context) Parameter.types :=
    (Run.Keeps.rules outlasting).candidates translates
  exact (keeps.keep searched trivial).1

variable {functionName method path : String} {document operation shared : Node}

/-- A building that ends without a signature tells asides, a refusal and the failure, and
brings the registered types back. -/
theorem reports_of_build_none {s₀ t₀ : Session}
    (created : Run.Returns (Translator.create document) s₀ builder.translator t₀)
    (returned : Run.Returns (builder.build functionName method path operation shared) s none t) :
    ∃ asides refusal failure, t.diagnostics = s.diagnostics ++ (asides ++ [refusal, failure]) ∧
      (∀ diagnostic ∈ asides, diagnostic.isAside = true) ∧ refusal.code.refuses = true ∧
      failure.code = .signatureFailed ∧ t.registry.entries = s.registry.entries := by
  obtain ⟨u, log, operationId, searched, -, rfl⟩ := returns_build_none returned
  have grows := grows_of_candidates created searched
  rw [candidates_eq_perform] at searched
  obtain ⟨_, same, asides, refusal, rfl, quiet, refuses⟩ :=
    (tells_perform (quiet_translateNode created)).tells searched
  let failure : Diagnostic :=
    ⟨.signatureFailed, [(operationId.orElse (.str functionName)).plain], none⟩
  exact ⟨asides, refusal, failure, by simp [same, failure], quiet, refuses, rfl,
    grows.entries_rollback⟩

/-- A building that ends with a signature tells asides. -/
theorem tells_of_build_some {signature : Signature}
    (translates : ∀ {node : Node} {context : String},
      Run.Quiet (builder.translator.translateNode node context))
    (returned : Run.Returns (builder.build functionName method path operation shared) s
      (some signature) t) : s.Tells true t := by
  obtain ⟨candidates, kept, u, v, steps⟩ := returns_build_some.1 returned
  have searched := steps.searched
  rw [candidates_eq_perform] at searched
  have told := (tells_perform translates).tells searched
  have quiet : Run.Quiet (builder.returnType operation (Name.pascal functionName)) :=
    .read fun responses => .read fun statuses => quiet_returnTypeOf translates
  exact (told.trans (quiet_distinct.tells steps.chosen)).trans (quiet.tells steps.typed)

/-- What a building that comes back adds to the diagnostics.  It ends without a signature
exactly when it has told a refusal: then just one, followed by the report of the failure, and
the registered types are those from before.  With a signature it has told asides. -/
theorem reports_of_build {s₀ t₀ : Session} {built : Option Signature}
    (created : Run.Returns (Translator.create document) s₀ builder.translator t₀)
    (returned : Run.Returns (builder.build functionName method path operation shared) s built t) :
    ∃ told, t.diagnostics = s.diagnostics ++ told ∧
      (built = none ↔ ∃ diagnostic ∈ told, diagnostic.code.refuses = true) ∧
      (built = none → ∃ asides refusal failure, told = asides ++ [refusal, failure] ∧
        (∀ diagnostic ∈ asides, diagnostic.isAside = true) ∧ refusal.code.refuses = true ∧
        failure.code = .signatureFailed ∧ t.registry.entries = s.registry.entries) ∧
      (built ≠ none → ∀ diagnostic ∈ told, diagnostic.isAside = true) := by
  cases built with
  | none =>
      obtain ⟨asides, refusal, failure, same, quiet, refuses, failed, entries⟩ :=
        reports_of_build_none created returned
      refine ⟨_, same, iff_of_true rfl ⟨refusal, by simp, refuses⟩, fun _ => ?_,
        fun some => absurd rfl some⟩
      exact ⟨asides, refusal, failure, rfl, quiet, refuses, failed, entries⟩
  | some signature =>
      obtain ⟨told, same, asides⟩ := tells_of_build_some (quiet_translateNode created) returned
      refine ⟨told, same, iff_of_false (Option.some_ne_none signature) ?_,
        fun none => absurd none (Option.some_ne_none signature), fun _ => asides⟩
      rintro ⟨diagnostic, member, refuses⟩
      have aside := asides diagnostic member
      rw [Diagnostic.isAside, refuses] at aside
      cases aside

/-- An operation with a query parameter of an unknown type and a path parameter that is an
object. -/
def objectInPath : Json := .object [("paths", .object [("/pets/\x7bpet\x7d", .object [
    ("get", .object [("parameters", .list [
      .object [("name", .str "tag"), ("in", .str "query"),
        ("schema", .object [("$ref", .str "#/components/schemas/Tag")])],
      .object [("name", .str "pet"), ("in", .str "path"), ("schema", .object [
        ("type", .str "object"),
        ("properties", .object [("id", .object [("type", .str "integer")])])])]])])])])]

theorem reports_of_build_objectInPath : ∃ (builder : SignatureBuilder) (s₀ s t : Session)
    (built : Option Signature),
    Run.Returns (Translator.create (.root 0 objectInPath)) s₀ builder.translator s ∧
    Run.Returns (builder.build "getPet" "get" "/pets/\x7bpet\x7d"
      (operationAt (.root 0 objectInPath) "/pets/\x7bpet\x7d" "get")
      (sharedAt (.root 0 objectInPath) "/pets/\x7bpet\x7d")) s built t ∧
    built = none ∧ t.diagnostics.map (·.code) =
      [.unresolvedReference, .invalidPathParameter, .signatureFailed] ∧
    ∃ told, t.diagnostics = s.diagnostics ++ told ∧
      (built = none ↔ ∃ diagnostic ∈ told, diagnostic.code.refuses = true) ∧
      (built = none → ∃ asides refusal failure, told = asides ++ [refusal, failure] ∧
        (∀ diagnostic ∈ asides, diagnostic.isAside = true) ∧ refusal.code.refuses = true ∧
        failure.code = .signatureFailed ∧ t.registry.entries = s.registry.entries) ∧
      (built ≠ none → ∀ diagnostic ∈ told, diagnostic.isAside = true) := by
  have ok : ((buildAt (.root 0 objectInPath) "getPet" "/pets/\x7bpet\x7d" "get").passes {}
      fun found t => found.2.isNone && t.diagnostics.map (·.code) ==
        [.unresolvedReference, .invalidPathParameter, .signatureFailed]) = true := by
    decide +kernel
  obtain ⟨⟨builder, built⟩, t, returned, both⟩ := Run.exists_returns_of ok
  simp only [buildAt, Run.returns_bind, Run.returns_pure, Prod.mk.injEq] at returned
  obtain ⟨translator, s, created, _, u, returned, ⟨rfl, rfl⟩, rfl⟩ := returned
  rw [Bool.and_eq_true, Option.isNone_iff_eq_none, beq_iff_eq] at both
  exact ⟨_, {}, s, u, _, created, returned, both.1, both.2, reports_of_build created returned⟩

end SignatureBuilder

end TypedContract
