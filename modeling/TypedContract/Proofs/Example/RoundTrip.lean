/-
# TypedContract.Proofs.Example.RoundTrip -- examples on their way to a source and back

The annotation that a node of a contract gets carries its example, or its named examples,
as a literal expression (`returns_annotationsFor`).  A mapper that carries this annotation
reads the expression back, by the round trip of literals.  What it reads as an example it
writes as it is; named examples have to be an object of objects, and whatever else stands
under `examples` is reported and not written (`ExampleMapper.writes_annotated_iff`).
-/
import TypedContract.Proofs.Editing
import TypedContract.Proofs.Literal.RoundTrip
import TypedContract.Proofs.Returning
import TypedContract.Proofs.Steps

namespace TypedContract

set_option autoImplicit false

namespace Example

/-! ## To a source -/

/-- The value is an object of objects. -/
def IsNamed (value : Json) : Prop :=
  ∃ named, value = .object named ∧ ∀ entry ∈ named, ∃ inner, entry.2 = .object inner

/-- A value has the form that examples of a kind must have. -/
def HasForm : Which → Json → Prop
  | .example, _ => True
  | .examples, value => IsNamed value

variable {node value : Json} {name text : String} {s t : Session} {tags : List Annotation}
  {which other : Which}

theorem returns_annotate
    (returned : Run.Returns (annotate which (Literal.ofJson value) name) s tags t)
    (present : tags ≠ []) : ∃ text, value.encode = .ok text ∧ tags = [annotationOf which text] := by
  unfold annotate at returned
  split at returned
  · rename_i text written
    obtain ⟨rfl, -⟩ := Run.returns_pure.1 returned
    exact ⟨text, written, rfl⟩
  · obtain ⟨_, _, -, rest⟩ := Run.returns_bind.1 returned
    exact absurd (Run.returns_pure.1 rest).1.symm present
  · exact absurd returned Run.not_returns_throw

/-- A node that gets an annotation gets one, which carries its example or its named
examples. -/
theorem returns_annotationsFor (returned : Run.Returns (annotationsFor node name) s tags t)
    (present : tags ≠ []) : ∃ which value text, node.member? which.key = .ok (some value) ∧
      value.encode = .ok text ∧ tags = [annotationOf which text] := by
  unfold annotationsFor at returned
  simp only [Run.returns_bind, Run.returns_lift, Json.member, except_bind_eq_ok,
    except_pure_eq_ok] at returned
  obtain ⟨value?, _, ⟨found, rfl⟩, _, _, ⟨⟨values?, given, rfl⟩, rfl⟩, returned⟩ := returned
  unfold annotateBoth at returned
  split at returned
  · exact absurd (Run.returns_pure.1 returned).1.symm present
  · rename_i single absent
    obtain ⟨value, rfl, rfl⟩ := Option.map_eq_some_iff.1 single
    obtain ⟨text, written, same⟩ := returns_annotate returned present
    exact ⟨.example, value, text, found, written, same⟩
  · rename_i absent
    cases values? with
    | none => exact absurd rfl absent
    | some value =>
        obtain ⟨text, written, same⟩ := returns_annotate returned present
        exact ⟨.examples, value, text, given, written, same⟩
  · obtain ⟨_, _, -, rest⟩ := Run.returns_bind.1 returned
    exact absurd (Run.returns_pure.1 rest).1.symm present

/-! ## Back to a contract -/

theorem checkNamed_eq_ok : checkNamed value = .ok () ↔ IsNamed value := by
  unfold checkNamed IsNamed
  cases value with
  | object named =>
      simp only [Json.object.injEq, exists_eq_left']
      generalize found : named.find? _ = odd?
      cases odd? with
      | some odd =>
          have bad := List.find?_some found
          have inside := List.mem_of_find?_eq_some found
          simp only [reduceCtorEq, false_iff]
          intro each
          obtain ⟨inner, object⟩ := each odd inside
          rw [object] at bad
          cases bad
      | none =>
          simp only [true_iff]
          intro entry inside
          have good := List.find?_eq_none.1 found entry inside
          cases object : entry.2 with
          | object inner => exact ⟨inner, rfl⟩
          | _ => rw [object] at good; exact absurd rfl good
  | _ => simp

/-- A value that is no object of objects is refused as named examples. -/
theorem exists_checkNamed_error (odd : ¬ IsNamed value) :
    ∃ why, checkNamed value = .error (.malformed why) := by
  rw [← checkNamed_eq_ok] at odd
  unfold checkNamed at odd ⊢
  cases value with
  | object named =>
      dsimp only at odd ⊢
      split
      · exact ⟨_, rfl⟩
      · rename_i none
        rw [none] at odd
        exact absurd rfl odd
  | _ => exact ⟨_, rfl⟩

theorem find?_annotationOf : find? [annotationOf which text] other =
    if which = other then some (annotationOf which text) else none := by
  cases which <;> cases other <;> rfl

theorem inConflict_annotationOf : inConflict [annotationOf which text] = false := by
  cases which <;> rfl

theorem annotated?_of_none (missing : find? tags which = none) : annotated? tags which = .ok none := by
  rw [annotated?, expression?, missing]
  rfl

theorem annotated?_of_noValue {tag : Annotation} (found : find? tags which = some tag)
    (missing : tag.field? valueField = none) :
    annotated? tags which = .error (.malformed .noValue) := by
  rw [annotated?, expression?, found]
  dsimp only
  rw [missing]
  rfl

/-- What is annotated is what the literal of the annotation is decoded to. -/
theorem annotated?_of_text {tag : Annotation} (found : find? tags which = some tag)
    (given : tag.field? valueField = some text) :
    annotated? tags which = some <$> decode which text := by
  rw [annotated?, expression?, found]
  dsimp only
  rw [given]
  rfl

/-- Only the kind of examples that an annotation carries is read from it. -/
theorem annotated?_of_ne (apart : which ≠ other) :
    annotated? [annotationOf which text] other = .ok none :=
  annotated?_of_none (find?_annotationOf.trans (if_neg apart))

theorem annotated?_annotationOf :
    annotated? [annotationOf which text] which = some <$> decode which text :=
  annotated?_of_text (find?_annotationOf.trans (if_pos rfl)) rfl

theorem decode_of_hasForm (decoded : Literal.decode text = .ok value) (formed : HasForm which value) :
    decode which text = .ok value := by
  unfold decode
  rw [decoded]
  match which, formed with
  | .example, _ => rfl
  | .examples, named =>
      change (checkNamed value >>= fun _ => .ok value : Except Fault Json) = _
      rw [checkNamed_eq_ok.2 named]
      rfl

/-- What has not the form of its kind is refused. -/
theorem exists_decode_error (decoded : Literal.decode text = .ok value)
    (odd : ¬ HasForm which value) : ∃ why, decode which text = .error (.malformed why) := by
  match which, odd with
  | .example, odd => exact absurd trivial odd
  | .examples, odd =>
      obtain ⟨why, refused⟩ := exists_checkNamed_error odd
      refine ⟨why, ?_⟩
      unfold decode
      rw [decoded]
      change (checkNamed value >>= fun _ => .ok value : Except Fault Json) = _
      rw [refused]
      rfl

end Example

/-! ## There and back -/

namespace ExampleMapper

open Example

variable {which other : Which} {text word : String} {value name : Json} {d e : Draft}
  {location : Option Location} {tags : List Annotation} {node : Json} {target : String}
  {s t : Session}

/-- The mapper that carries annotations onto an empty node. -/
def ontoEmpty (word : String) (name : Json) (tags : List Annotation)
    (location : Option Location) : ExampleMapper :=
  ⟨.node word (.root 0 (.object [])), name, tags, location⟩

/-- A node with one named example whose text holds a quote. -/
def shortContract : Json :=
  .object [("examples", .object [("short", .object [("value", .str "it's")])])]

theorem returns_assign_empty (empty : d.document = .object []) {key : String} :
    Edit.Returns (Edit.assign (.root 0 (.object [])) key value) d ()
      { d with document := .object [(key, value)] } := by
  obtain ⟨document, diagnostics, log⟩ := d
  obtain rfl : document = .object [] := empty
  rfl

theorem returns_set_of_ne (apart : which ≠ other) :
    Edit.Returns ((ontoEmpty word name [annotationOf which text] location).set other) d () e ↔
      d = e := by
  have enabled : (ontoEmpty word name [annotationOf which text] location).isDisabled = false :=
    inConflict_annotationOf
  have nothing : annotated? (ontoEmpty word name [annotationOf which text] location).annotations
      other = .ok none := annotated?_of_ne apart
  unfold set
  rw [enabled, nothing]
  exact Edit.returns_pure.trans (and_iff_right rfl)

/-- A value of the form that is wanted is written, any other is reported. -/
theorem returns_set (decoded : Literal.decode text = .ok value) (empty : d.document = .object []) :
    (HasForm which value ∧ Edit.Returns
      ((ontoEmpty word name [annotationOf which text] location).set which) d ()
        { d with document := .object [(which.key, value)] }) ∨
    (¬ HasForm which value ∧ ∃ reported, Edit.Returns
      ((ontoEmpty word name [annotationOf which text] location).set which) d ()
        { d with diagnostics := d.diagnostics ++ [reported] }) := by
  have enabled : (ontoEmpty word name [annotationOf which text] location).isDisabled = false :=
    inConflict_annotationOf
  have read : annotated? (ontoEmpty word name [annotationOf which text] location).annotations
      which = some <$> decode which text := annotated?_annotationOf
  unfold set
  rw [enabled, read]
  by_cases formed : HasForm which value
  · rw [decode_of_hasForm decoded formed]
    exact .inl ⟨formed, returns_assign_empty empty⟩
  · obtain ⟨why, refused⟩ := exists_decode_error decoded formed
    rw [refused]
    exact .inr ⟨formed, _, Edit.returns_report.2 rfl⟩

/-- The two kinds one after the other come to what the annotated kind comes to. -/
theorem returns_run_ontoEmpty :
    Edit.Returns (ontoEmpty word name [annotationOf which text] location).run d () e ↔
      Edit.Returns ((ontoEmpty word name [annotationOf which text] location).set which) d () e := by
  have enabled : (ontoEmpty word name [annotationOf which text] location).isDisabled = false :=
    inConflict_annotationOf
  unfold run start
  rw [enabled]
  have alone : Edit.Returns (ontoEmpty word name [annotationOf which text] location).apply d () e ↔
      Edit.Returns ((ontoEmpty word name [annotationOf which text] location).set which) d () e := by
    unfold apply
    rw [Edit.returns_bind]
    match which with
    | .example =>
        constructor
        · rintro ⟨_, f, wrote, idle⟩
          exact (returns_set_of_ne (by decide)).1 idle ▸ wrote
        · exact fun wrote => ⟨(), e, wrote, (returns_set_of_ne (by decide)).2 rfl⟩
    | .examples =>
        constructor
        · rintro ⟨_, f, idle, wrote⟩
          exact (returns_set_of_ne (by decide)).1 idle ▸ wrote
        · exact fun wrote => ⟨(), d, (returns_set_of_ne (by decide)).2 rfl, wrote⟩
  rw [← alone, Edit.returns_bind]
  constructor
  · rintro ⟨_, f, started, applied⟩
    exact (Edit.returns_pure.1 started).2 ▸ applied
  · exact fun applied => ⟨(), d, Edit.returns_pure.2 ⟨rfl, rfl⟩, applied⟩

/-- A node that gets an annotation gets one, for the value under the key of its kind.  When
that value keeps to the limits, a mapper that carries the annotation onto an empty node
reports nothing and writes the same value under the same key, exactly when the annotation is
one of an example or the value is an object of objects. -/
theorem writes_annotated_iff (returned : Run.Returns (annotationsFor node target) s tags t)
    (present : tags ≠ []) :
    ∃ which value text, node.member? which.key = .ok (some value) ∧ value.encode = .ok text ∧
      tags = [annotationOf which text] ∧
      (value.Writable Literal.Token.nestingLimit →
        ∀ word name location d, d.document = .object [] →
          (Edit.Returns (ontoEmpty word name tags location).run d ()
            { d with document := .object [(which.key, value)] } ↔ HasForm which value)) := by
  obtain ⟨which, value, text, held, written, rfl⟩ := returns_annotationsFor returned present
  refine ⟨which, value, text, held, written, rfl, fun writable word name location d empty => ?_⟩
  have decoded : Literal.decode text = .ok value := by
    rw [Except.ok.inj (written.symm.trans (Literal.encode_eq_written writable))]
    exact Literal.decode_written writable
  rw [returns_run_ontoEmpty]
  rcases returns_set decoded empty with ⟨formed, wrote⟩ | ⟨odd, reported, refused⟩
  · exact iff_of_true wrote formed
  · refine iff_of_false (fun wrote => ?_) odd
    have same := congrArg Draft.diagnostics (wrote.unique refused).2
    simp at same

/-- A set of named examples comes back as it was. -/
theorem writes_annotated_iff_short : ∃ tags t,
    Run.Returns (annotationsFor shortContract "Pet") {} tags t ∧ tags ≠ [] ∧
    Edit.Returns (ontoEmpty "type" (.str "Pet") tags none).run { document := .object [] } ()
      { document := shortContract } := by
  have ok : ((annotationsFor shortContract "Pet").passes {} fun tags _ => !tags.isEmpty) = true := by
    decide +kernel
  obtain ⟨tags, t, returned, given⟩ := Run.exists_returns_of ok
  have present : tags ≠ [] := by
    rintro rfl
    cases given
  obtain ⟨which, value, text, held, -, -, back⟩ := writes_annotated_iff returned present
  obtain rfl : which = .examples := by
    cases which
    · cases held
    · rfl
  cases held
  refine ⟨tags, t, returned, present, (back ?_ _ _ _ _ rfl).2 ?_⟩
  · refine .object (by decide) (List.forall_mem_singleton.2 ?_)
    exact .object (by decide) (List.forall_mem_singleton.2 (.str _))
  · exact ⟨_, rfl, List.forall_mem_singleton.2 ⟨_, rfl⟩⟩

/-- A list of examples gets an annotation, which is reported on its way back. -/
theorem annotated_list_refused : ∃ tags t d,
    Run.Returns (annotationsFor (.object [("examples", .list [.str "Rex"])]) "Names") {} tags t ∧
    tags ≠ [] ∧ (Json.list [.str "Rex"]).Writable Literal.Token.nestingLimit ∧
    Edit.Returns (ontoEmpty "type" (.str "Names") tags none).run { document := .object [] } () d ∧
    d.document = .object [] ∧ d.diagnostics ≠ [] := by
  have limited : (Json.list [.str "Rex"]).Writable Literal.Token.nestingLimit :=
    .list (List.forall_mem_singleton.2 (.str _))
  have decoded : Literal.decode "['Rex']" = .ok (.list [.str "Rex"]) := by
    have written : (Json.list [.str "Rex"]).written = "['Rex']" := rfl
    exact written ▸ Literal.decode_written limited
  have odd : ¬ HasForm .examples (.list [.str "Rex"]) := fun ⟨named, object, _⟩ => nomatch object
  have empty : ({ document := .object [] } : Draft).document = .object [] := rfl
  rcases returns_set decoded empty with ⟨formed, -⟩ | ⟨-, reported, refused⟩
  · exact absurd formed odd
  · exact ⟨[annotationOf .examples "['Rex']"], _, _, rfl, nofun, limited,
      returns_run_ontoEmpty.2 refused, rfl, by simp⟩

end ExampleMapper

end TypedContract
