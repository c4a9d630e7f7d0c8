/-
# TypedContract.Proofs.Translation.Rehoisting -- the same object met again

An inline object that is met again in its context should keep the name that its record was
given.  Where it was hoisted is remembered by that name, and it is looked up by the context.
The two are the same exactly when the context was free when the object was first met, or was
its own name already: then the object keeps its name in every later session in which the
name is registered or in progress (`isHoisted_of_course`).  When the context was taken, by a
component, by a type in progress or by another record, the record has a number in its name,
the context does not lead to it, and the object is hoisted once more under another name.
`translate_again_iff` has both directions.

The first record may be complete by then or still in progress, so the later session is any
that a course of its name leads to from the moment at which it was given.  The end of the
first translation is one of them (`course_of_translate`), and so are all sessions that calls
on a translator lead to afterwards, whether they come back or fault (`course_of_attempts`).
-/
import TypedContract.Proofs.Translation.Course
import TypedContract.Proofs.Translation.Hoisting
import TypedContract.Proofs.Translation.Order

namespace TypedContract

set_option autoImplicit false

namespace Translation

variable {schemas : Node} {schema : Schema} {context name : String} {place : Place}
  {s s' t : Session} {type : Ty} {bound bound' : Nat}

/-! ## The name that an object is given -/

/-- The name that an inline object at a place has in a context, or is about to be given. -/
def givenName (s : Session) (context : String) (place : Option Place) : String :=
  if isHoisted s context place then context else s.registry.uniqueName context

/-- The session right after the object was given its name. -/
def named (s : Session) (context : String) (place : Option Place) : Session :=
  if isHoisted s context place then s
  else Run.begun (hoisting s (s.registry.uniqueName context) place) (s.registry.uniqueName context)

theorem isHoisted_iff {place : Option Place} :
    isHoisted s name place = true ↔
      place.isSome = true ∧ s.hoisted.lookup name = some place ∧ s.registry.contains name = true := by
  simp [isHoisted, and_assoc]

/-- A record that was hoisted under its context is found along every course of its name. -/
theorem isHoisted_of_course (here : isHoisted s name (some place) = true)
    (course : Session.Course name s s') : isHoisted s' name (some place) = true := by
  obtain ⟨-, noted, -⟩ := isHoisted_iff.1 here
  exact isHoisted_iff.2 ⟨rfl, course.lookup.trans noted, course.held⟩

/-- A name that a place was just given is hoisted. -/
theorem isHoisted_begun :
    isHoisted (Run.begun (hoisting s name (some place)) name) name (some place) = true := by
  refine isHoisted_iff.2 ⟨rfl, ?_, Registry.contains_iff.2 (.inr List.mem_cons_self)⟩
  exact (List.lookup_cons).trans (by rw [beq_self_eq_true])

theorem eq_of_withNil_reference {nullable : Bool} {name other : String}
    (same : withNil nullable (.reference name) = withNil nullable (.reference other)) :
    name = other := by
  unfold withNil at same
  cases nullable <;> simpa [Ty.isNilable] using same

/-! ## Translating an object in a context -/

section

variable (kind : schema.facts.kind = .object) (properties : schema.properties ≠ [])
  (contextual : context ≠ "")

include kind properties contextual

/-- An object with properties is hoisted in its context. -/
theorem returns_translate_object {ties : Ties} :
    Run.Returns (translate ties schema context) s type t ↔
      ∃ inner, type = withNil schema.facts.nullable inner ∧
        Run.Returns (hoist schema.facts.node.place context fun name =>
          recordOf ties (some name) schema) s inner t := by
  obtain ⟨facts, items, entries, additional, members⟩ := schema
  have opened : translate ties (.mk facts items entries additional members) context = do
      return withNil facts.nullable (← hoist facts.node.place context fun name =>
        recordOf ties (some name) (.mk facts items entries additional members)) := by
    have some : entries.isEmpty = false := List.isEmpty_eq_false_iff.2 properties
    have named : (context == "") = false := beq_false_of_ne contextual
    change facts.kind = .object at kind
    unfold translate
    simp only [kind, some, named]
    rfl
  rw [opened]
  simp only [Run.returns_bind, Run.returns_pure]
  constructor
  · rintro ⟨inner, u, inside, rfl, rfl⟩
    exact ⟨inner, rfl, inside⟩
  · rintro ⟨inner, rfl, inside⟩
    exact ⟨inner, t, inside, rfl, rfl⟩

/-- The session that the first translation leaves lies on the course of the name. -/
theorem course_of_translate {place : Option Place} (placed : schema.facts.node.place = place)
    (first : Run.Returns (translate (Ties.within schemas bound) schema context) s type t) :
    Session.Course (givenName s context place) (named s context place) t := by
  have derived := derives_translate (Ties.within_sound schemas bound) first
  obtain ⟨inner, -, bare⟩ := derived.of_schema
  rcases bare.of_object kind properties with
    ⟨none, -⟩ | ⟨-, rfl, -, before⟩ | ⟨name, fields, text, u, -, -, anew, unique, -, inside, rfl⟩
  · exact absurd none contextual
  · rw [placed] at before
    rw [givenName, named, if_pos before, if_pos before]
    exact .refl (isHoisted_iff.1 before).2.2
  · rw [placed] at anew inside
    have unseen : ¬ isHoisted s context place = true := by rw [anew]; exact Bool.false_ne_true
    rw [givenName, named, if_neg unseen, if_neg unseen, unique]
    exact (inside.course (Registry.contains_iff.2 (.inr List.mem_cons_self))).finished

/-- So do the sessions that calls on a translator lead to from there. -/
theorem course_of_attempts {document : Node} {translator : Translator} {r r' u : Session}
    {place : Option Place} (placed : schema.facts.node.place = place)
    (first : Run.Returns (translate (Ties.within schemas bound) schema context) s type t)
    (idle : t.registry.building = [])
    (created : Run.Returns (Translator.create document) r translator r')
    (attempts : Relation.ReflTransGen translator.Attempts t u) :
    Session.Course (givenName s context place) (named s context place) u := by
  have course := course_of_translate kind properties contextual placed first
  have registered : givenName s context place ∈ t.registry.names := by
    rcases Registry.contains_iff.1 course.held with found | building
    · exact Registry.mem_names_iff.2 found
    · rw [idle] at building
      cases building
  exact course.trans (Translator.course_of_attempts created registered attempts)

/-- An object that is translated again in its context has the name of its record again, with
nothing new registered, exactly if the context was free when the record was given its name,
or was the record's own name already.  The second translation may begin in any session in
which the record is complete or in progress. -/
theorem translate_again_iff (placed : schema.facts.node.place = some place)
    (first : Run.Returns (translate (Ties.within schemas bound) schema context) s type t)
    (course : Session.Course (givenName s context (some place)) (named s context (some place)) s') :
    (∃ t', Run.Returns (translate (Ties.within schemas bound') schema context) s' type t' ∧
      t'.registry = s'.registry) ↔
    s.registry.isTaken context = false ∨ isHoisted s context (some place) = true := by
  obtain ⟨inner, rfl, hoisted⟩ := (returns_translate_object kind properties contextual).1 first
  rw [placed] at hoisted
  -- an object that is found under its context is a reference to it, in either session
  have found : isHoisted s' context (some place) = true → inner = .reference context →
      ∃ t', Run.Returns (translate (Ties.within schemas bound') schema context) s'
        (withNil schema.facts.nullable inner) t' ∧ t'.registry = s'.registry := by
    rintro again rfl
    refine ⟨s', (returns_translate_object kind properties contextual).2 ⟨_, rfl, ?_⟩, rfl⟩
    rw [placed]
    exact returns_hoist.2 (.inl ⟨again, rfl, rfl⟩)
  rcases returns_hoist.1 hoisted with
    ⟨before, rfl, -⟩ | ⟨anew, name, built, u, unique, rfl, -, -⟩
  · rw [givenName, named, if_pos before, if_pos before] at course
    exact iff_of_true (found (isHoisted_of_course before course) rfl) (.inr before)
  · have unseen : ¬ isHoisted s context (some place) = true := by
      rw [anew]
      exact Bool.false_ne_true
    rw [givenName, named, if_neg unseen, if_neg unseen, unique] at course
    constructor
    · rintro ⟨t', second, unchanged⟩
      left
      obtain ⟨inner', same, hoisted'⟩ :=
        (returns_translate_object kind properties contextual).1 second
      rw [placed] at hoisted'
      rcases returns_hoist.1 hoisted' with
        ⟨-, rfl, -⟩ | ⟨-, name', built', u', unique', rfl, -, rfl⟩
      · rw [← eq_of_withNil_reference same, ← unique]
        exact Registry.uniqueName_free
      · -- what is hoisted once more is registered in the end and was not before
        have registered : name' ∈ (Run.finished u' name' built').registry.names :=
          Registry.mem_names_putEntry.2 (.inl rfl)
        rw [unchanged] at registered
        have known : s'.registry.contains name' = true :=
          Registry.contains_iff.2 (.inl (Registry.mem_names_iff.1 registered))
        have fresh : s'.registry.contains name' = false := unique' ▸ Registry.uniqueName_spec.1
        cases known.symm.trans fresh
    · rintro (free | before)
      · have own : name = context := by
          rw [← unique, Registry.uniqueName, free]
          rfl
        subst own
        exact found (isHoisted_of_course isHoisted_begun course) rfl
      · exact absurd before unseen

end

/-- An object beside a component. -/
def choice : Json :=
  .object [("type", .str "object"), ("properties", .object [("a", .object [("type", .str "string")])])]

/-- A component and an object beside the components. -/
def choiceContract : Json :=
  .object [
    ("components", .object [("schemas", .object [("Options", .object [("type", .str "string")])])]),
    ("choice", choice)]

/-- The object where it stands in the document. -/
def choiceNode : Node := ⟨choice, some ⟨0, [1]⟩⟩

/-- What the object is called in a context when it is translated twice. -/
def translateTwice (context : String) : Run (Ty × Ty) := do
  let translator ← Translator.registerAll (.root 0 choiceContract)
  let first ← translator.translateNode choiceNode context
  return (first, ← translator.translateNode choiceNode context)

/-- In a context that no type is called by, the object keeps its name. -/
theorem translate_again_iff_choice : ∃ translator schemas bound schema s type t t',
    Run.Returns (Translator.registerAll (.root 0 choiceContract)) {} translator s ∧
    Schema.parse choiceNode = .ok schema ∧ schema.facts.kind = .object ∧
    schema.properties ≠ [] ∧ "Choice" ≠ "" ∧ schema.facts.node.place = some ⟨0, [1]⟩ ∧
    Run.Returns (translate (Ties.within schemas bound) schema "Choice") s type t ∧
    Session.Course (givenName s "Choice" (some ⟨0, [1]⟩)) (named s "Choice" (some ⟨0, [1]⟩)) t ∧
    Run.Returns (translate (Ties.within schemas bound) schema "Choice") t type t' ∧
    t'.registry = t.registry := by
  have ok : ((Translator.registerAll (.root 0 choiceContract)).passes {} fun translator s =>
      !s.registry.isTaken "Choice" &&
      (translator.translateNode choiceNode "Choice").passes s fun _ _ => true) = true := by
    decide +kernel
  obtain ⟨translator, s, returned, passed⟩ := Run.exists_returns_of ok
  obtain ⟨free, passed⟩ := Bool.and_eq_true_iff.1 passed
  obtain ⟨type, t, translated⟩ := Run.exists_returns passed
  obtain ⟨u, done, created, -⟩ := Translator.returns_registerAll returned
  obtain ⟨schema, _, parsing, first⟩ := Run.returns_bind.1 translated
  obtain ⟨parsed, rfl⟩ := Run.returns_lift.1 parsing
  unfold Translator.translate at first
  rw [(Translator.returns_create created).2.1] at first
  obtain ⟨kind, properties, placed⟩ : schema.facts.kind = .object ∧ schema.properties ≠ [] ∧
      schema.facts.node.place = some ⟨0, [1]⟩ := by
    cases parsed
    exact ⟨rfl, List.cons_ne_nil _ _, rfl⟩
  have course := course_of_translate kind properties (by decide) placed first
  obtain ⟨t', again, unchanged⟩ :=
    (translate_again_iff kind properties (by decide) placed first course).2 (.inl (by simpa using free))
  exact ⟨translator, _, _, schema, s, type, t, t', returned, parsed, kind, properties, by decide,
    placed, first, course, again, unchanged⟩

/-- In a context that a component is called by, the object is called by another name each
time, and each time a further record is registered. -/
theorem translate_again_renames : ∃ t,
    Run.Returns (translateTwice "Options") {}
      (.reference "Options_2", .reference "Options_3") t ∧
    t.registry.names = ["Options", "Options_2", "Options_3"] := by
  have ok : ((translateTwice "Options").passes {} fun found t =>
      found.1.same (.reference "Options_2") && found.2.same (.reference "Options_3") &&
      t.registry.names == ["Options", "Options_2", "Options_3"]) = true := by decide +kernel
  obtain ⟨⟨first, second⟩, t, returned, named⟩ := Run.exists_returns_of ok
  simp only [Bool.and_eq_true, beq_iff_eq] at named
  obtain rfl := Ty.eq_of_same_reference named.1.1
  obtain rfl := Ty.eq_of_same_reference named.1.2
  exact ⟨t, returned, named.2⟩

end Translation

end TypedContract
