/-
# TypedContract.Proofs.Example.Calls -- what a mapper does over its calls

A mapper can be called again and again, for one kind of examples or for both.  What it does
is settled by the symbol and the target before the first call: with both kinds annotated it
reports the conflict once and does nothing more; otherwise at most one kind is annotated, and
each call that asks for it has the same `Response`.  A write stands where it was written, so
writing again changes nothing, and the target stays a target of the same kind
(`Lands.written`); a refusal is reported once for each call (`returns_serve`).  So only the
kinds of the calls matter to the document, not their order or their number.

The one thing that can go wrong is a literal that stops the decoder: the call then neither
writes nor reports (`behaves_iff`).
-/
import TypedContract.Proofs.Contract.Change
import TypedContract.Proofs.Example.RoundTrip
import TypedContract.Proofs.Literal.Decoding

namespace TypedContract

set_option autoImplicit false

namespace ExampleMapper

open Example

/-! ## Calls -/

/-- A call of a mapper. -/
inductive Call where
  | apply
  | set (which : Which)

/-- The call maps the examples of the kind. -/
def Call.asks (which : Which) : Call → Bool
  | .apply => true
  | .set own => own = which

/-- What a call does. -/
def perform (mapper : ExampleMapper) : Call → Edit Unit
  | .apply => mapper.apply
  | .set which => mapper.set which

/-- A mapper is made and then called. -/
def serve (mapper : ExampleMapper) (calls : List Call) : Edit Unit := do
  mapper.start
  calls.forM mapper.perform

/-! ## Targets -/

/-- Where the examples of a mapper would be written. -/
inductive Landing where
  /-- Onto the object at a path. -/
  | object (path : List Nat)
  /-- Nowhere, as there is no content. -/
  | nowhere
  /-- Nowhere, as there is not exactly one media type. -/
  | miscounted

/-- The node is the object that stands at a path of the document. -/
structure IsObjectAt (document : Json) (node : Node) (path : List Nat)
    (entries : List (String × Json)) : Prop where
  object : ∃ held, node.value = .object held
  place : ∃ number, node.place = some ⟨number, path⟩
  here : document.at? path = some (.object entries)

/-- Examples for the target land there: on a node itself, on the only media type of a request
body, which stands in its content, or nowhere. -/
inductive Lands (document : Json) : ExampleTarget → Landing → Prop where
  | node {word : String} {node : Node} {path : List Nat} {entries : List (String × Json)}
      (stands : IsObjectAt document node path entries) :
        Lands document (.node word node) (.object path)
  | noBody : Lands document (.request none) .nowhere
  | noContent {body : Node} {path : List Nat} {entries : List (String × Json)}
      (stands : IsObjectAt document body path entries)
      (none : (Json.find? "content" entries).getD .null = .null) :
      Lands document (.request (some body)) .nowhere
  | miscounted {body : Node} {path : List Nat} {entries medias : List (String × Json)}
      (stands : IsObjectAt document body path entries)
      (content : Json.find? "content" entries = some (.object medias)) (count : medias.length ≠ 1) :
      Lands document (.request (some body)) .miscounted
  | media {body : Node} {path : List Nat} {entries inner : List (String × Json)} {position : Nat}
      {name : String} (stands : IsObjectAt document body path entries)
      (content : Json.find? "content" entries = some (.object [(name, .object inner)]))
      (placed : Json.position? "content" entries = some position) :
      Lands document (.request (some body)) (.object (path ++ [position, 0]))

section

variable {document : Json} {node : Node} {path : List Nat} {entries : List (String × Json)}

theorem IsObjectAt.refreshed (stands : IsObjectAt document node path entries) :
    ∃ number, node.refreshed document = ⟨.object entries, some ⟨number, path⟩⟩ := by
  obtain ⟨⟨held, object⟩, ⟨number, placed⟩, here⟩ := stands
  obtain ⟨value, place⟩ := node
  obtain rfl : value = .object held := object
  obtain rfl : place = some ⟨number, path⟩ := placed
  refine ⟨number, ?_⟩
  unfold Node.refreshed
  dsimp only
  rw [here, Option.getD_some]

/-- Assigning a key changes the object at the path. -/
theorem IsObjectAt.assign {d : Draft} {name : String} {value : Json}
    (stands : IsObjectAt d.document node path entries) :
    Edit.Returns (Edit.assign node name value) d ()
      { d with document := Json.amendAt (Json.put name value) path d.document } := by
  obtain ⟨number, fresh⟩ := stands.refreshed
  obtain ⟨number', placed⟩ := stands.place
  refine Edit.returns_assign.2 ⟨entries, by rw [fresh], ?_⟩
  unfold Edit.assigned
  rw [placed]
  dsimp only
  rw [Json.replaceAt_object stands.here]
  congr 1
  apply Json.amendAt_congr
  intro entries' here
  cases stands.here.symm.trans here
  rfl

/-- The landing does not move when something is written onto it. -/
theorem Lands.written {target : ExampleTarget} {name : String} {value : Json}
    (lands : Lands document target (.object path)) :
    Lands (Json.amendAt (Json.put name value) path document) target (.object path) := by
  cases lands with
  | node stands => exact .node ⟨stands.object, stands.place, Json.at?_amendAt stands.here⟩
  | @media body path entries inner position media stands content placed =>
      have here : (Json.amendAt (Json.put name value) (path ++ [position, 0]) document).at? path =
          some (.object (entries.modify position fun entry =>
            (entry.1, Json.amendAt (Json.put name value) [0] entry.2))) := by
        rw [Json.at?_amendAt_append, stands.here]
        rfl
      have content' : Json.find? "content" (entries.modify position fun entry =>
          (entry.1, Json.amendAt (Json.put name value) [0] entry.2)) =
            some (.object [(media, .object (Json.put name value inner))]) := by
        rw [Json.find?_modify_self placed content]
        rfl
      exact .media ⟨stands.object, stands.place, here⟩ content' (Json.position?_modify.trans placed)

end

/-! ## Responses -/

/-- What a call does that asks for a kind of examples. -/
inductive Response where
  /-- It does nothing. -/
  | idle
  /-- It writes a value under a key of the object at a path. -/
  | write (path : List Nat) (key : String) (value : Json)
  /-- It reports why nothing is written. -/
  | refuse (diagnostic : Diagnostic)

namespace Response

/-- The draft after so many such calls: a value is written once, a report is added each time. -/
def times (n : Nat) (d : Draft) : Response → Draft
  | .idle => d
  | .write path key value =>
      if n = 0 then d else { d with document := Json.amendAt (Json.put key value) path d.document }
  | .refuse diagnostic => { d with diagnostics := d.diagnostics ++ List.replicate n diagnostic }

variable {response : Response} {n : Nat} {d : Draft}

@[simp] theorem times_zero : response.times 0 d = d := by
  cases response with
  | refuse diagnostic =>
      show { d with diagnostics := d.diagnostics ++ [] } = d
      rw [List.append_nil]
  | _ => rfl

/-- One call after others. -/
theorem times_times : response.times 1 (response.times n d) = response.times (n + 1) d := by
  cases response with
  | idle => rfl
  | write path key value =>
      cases n with
      | zero => rfl
      | succ n =>
          have again : Json.put key value ∘ Json.put key value = Json.put key value :=
            funext fun _ => Json.put_put
          simp only [times, Nat.succ_ne_zero, one_ne_zero, if_false, Json.amendAt_amendAt, again]
  | refuse diagnostic =>
      simp only [times, List.append_assoc, List.replicate_one, ← List.replicate_succ']

end Response

/-- The report that a literal was refused. -/
def malformed (mapper : ExampleMapper) (which : Which) (why : Malformed) : Diagnostic :=
  ⟨.malformedExampleLiteral, [which.key, mapper.target.word, mapper.name.plain, why.message],
    mapper.location⟩

/-- The report that there is not exactly one media type. -/
def miscount (mapper : ExampleMapper) : Diagnostic :=
  ⟨.invalidMediaTypeCount, [mapper.name.plain], mapper.location⟩

/-- The report that both kinds of examples are annotated. -/
def conflict (mapper : ExampleMapper) : Diagnostic :=
  ⟨.conflictingExampleAnnotations, [mapper.name.plain], mapper.location⟩

/-- The response to a call for a kind of examples: nothing without an annotation; a report for an
annotation without a value or with a malformed literal; and for a decoded value of the form that
is wanted what its landing asks for. -/
inductive Responds (mapper : ExampleMapper) : Landing → Which → Response → Prop where
  | unannotated {landing : Landing} {which : Which} (none : find? mapper.annotations which = none) :
      Responds mapper landing which .idle
  | noValue {landing : Landing} {which : Which} {tag : Annotation}
      (found : find? mapper.annotations which = some tag) (none : tag.field? valueField = none) :
      Responds mapper landing which (.refuse (mapper.malformed which .noValue))
  | malformed {landing : Landing} {which : Which} {tag : Annotation} {text : String}
      {why : Malformed} (found : find? mapper.annotations which = some tag)
      (given : tag.field? valueField = some text)
      (refused : decode which text = .error (.malformed why)) :
      Responds mapper landing which (.refuse (mapper.malformed which why))
  | written {path : List Nat} {which : Which} {tag : Annotation} {text : String} {value : Json}
      (found : find? mapper.annotations which = some tag)
      (given : tag.field? valueField = some text) (decoded : Literal.decode text = .ok value)
      (formed : HasForm which value) :
      Responds mapper (.object path) which (.write path which.key value)
  | nowhere {which : Which} {tag : Annotation} {text : String} {value : Json}
      (found : find? mapper.annotations which = some tag)
      (given : tag.field? valueField = some text) (decoded : Literal.decode text = .ok value)
      (formed : HasForm which value) : Responds mapper .nowhere which .idle
  | miscounted {which : Which} {tag : Annotation} {text : String} {value : Json}
      (found : find? mapper.annotations which = some tag)
      (given : tag.field? valueField = some text) (decoded : Literal.decode text = .ok value)
      (formed : HasForm which value) : Responds mapper .miscounted which (.refuse mapper.miscount)

section

variable {mapper : ExampleMapper} {landing : Landing} {which other : Which} {response : Response}
  {d e : Draft}

/-- Whatever is reported instead of writing is an error. -/
theorem Responds.isError {diagnostic : Diagnostic}
    (responds : Responds mapper landing which (.refuse diagnostic)) : diagnostic.isError = true := by
  cases responds <;> rfl

/-- A call has a response unless its literal stops the decoder. -/
theorem exists_responds (free : ∀ tag text, find? mapper.annotations which = some tag →
    tag.field? valueField = some text → ¬ Literal.Stuck text) :
    ∃ response, Responds mapper landing which response := by
  cases found : find? mapper.annotations which with
  | none => exact ⟨_, .unannotated found⟩
  | some tag =>
      cases given : tag.field? valueField with
      | none => exact ⟨_, .noValue found given⟩
      | some text =>
          have answered := Literal.answered_decode_iff.2 (free tag text found given)
          rcases Literal.Answered.iff_cases.1 answered with ⟨why, refused⟩ | ⟨value, decoded⟩
          · have refused : decode which text = .error (.malformed why) := by
              rw [decode, refused]
              rfl
            exact ⟨_, .malformed found given refused⟩
          · by_cases formed : HasForm which value
            · cases landing with
              | object path => exact ⟨_, .written found given decoded formed⟩
              | nowhere => exact ⟨_, .nowhere found given decoded formed⟩
              | miscounted => exact ⟨_, .miscounted found given decoded formed⟩
            · obtain ⟨why, refused⟩ := exists_decode_error decoded formed
              exact ⟨_, .malformed found given refused⟩

/-- A call has no response when its literal stops the decoder. -/
theorem Responds.not_stuck {tag : Annotation} {text : String}
    (responds : Responds mapper landing which response)
    (found : find? mapper.annotations which = some tag)
    (given : tag.field? valueField = some text) : ¬ Literal.Stuck text := by
  rw [← Literal.answered_decode_iff]
  cases responds with
  | unannotated none => cases none.symm.trans found
  | noValue found' none =>
      cases found.symm.trans found'
      cases none.symm.trans given
  | malformed found' given' refused =>
      cases found.symm.trans found'
      cases given.symm.trans given'
      rcases except_bind_eq_error.1 refused with failed | ⟨value, decoded, -⟩
      · exact failed ▸ .malformed
      · exact decoded ▸ .ok
  | written found' given' decoded | nowhere found' given' decoded
  | miscounted found' given' decoded =>
      cases found.symm.trans found'
      cases given.symm.trans given'
      exact decoded ▸ .ok

end

/-! ## One call -/

/-- An empty object stands for itself, as far as its members are concerned. -/
theorem member_orElse {place : Option Place} {entries : List (String × Json)} {name : String} :
    ((⟨.object entries, place⟩ : Node).orElse (.object [])).member name =
      .ok (((⟨.object entries, place⟩ : Node).find? name entries).getD (.free .null)) := by
  cases entries <;> rfl

section

variable {mapper : ExampleMapper} {d e : Draft} {body : Node} {path : List Nat}
  {entries : List (String × Json)}

theorem returns_mediaTypes_noContent (stands : IsObjectAt d.document body path entries)
    (none : (Json.find? "content" entries).getD .null = .null) :
    Edit.Returns (mapper.mediaTypes body) d [] d := by
  obtain ⟨number, fresh⟩ := stands.refreshed
  unfold mediaTypes
  refine Edit.returns_bind.2 ⟨_, d, Edit.returns_refresh.2 ⟨fresh, rfl⟩, ?_⟩
  refine Edit.returns_bind.2 ⟨_, d, Edit.returns_lift.2 ⟨member_orElse, rfl⟩, ?_⟩
  have null : (((⟨.object entries, some ⟨number, path⟩⟩ : Node).find? "content" entries).getD
      (.free .null)).value.isNull = true := by
    unfold Node.find?
    cases found : Json.find? "content" entries with
    | none => rw [Json.position?_eq_none found]; rfl
    | some held =>
        obtain ⟨position, placed⟩ := Json.exists_position? found
        rw [found, Option.getD_some] at none
        rw [placed, none]
        rfl
  rw [null]
  exact Edit.returns_pure.2 ⟨rfl, rfl⟩

/-- With content, the number of its media types decides. -/
theorem returns_mediaTypes_object {medias : List (String × Json)} {position : Nat}
    (stands : IsObjectAt d.document body path entries)
    (content : Json.find? "content" entries = some (.object medias))
    (placed : Json.position? "content" entries = some position) :
    ∃ number, ∀ found, Edit.Returns (if medias.length ≠ 1 then do
          Edit.report .invalidMediaTypeCount [mapper.name.plain] mapper.location
          return []
        else return ((⟨.object medias, some ⟨number, path ++ [position]⟩⟩ : Node).entriesFrom 0
          medias).map (·.2)) d found e →
      Edit.Returns (mapper.mediaTypes body) d found e := by
  obtain ⟨number, fresh⟩ := stands.refreshed
  have own : (⟨.object entries, some ⟨number, path⟩⟩ : Node).find? "content" entries =
      some ⟨.object medias, some ⟨number, path ++ [position]⟩⟩ := by
    unfold Node.find?
    rw [placed, content]
    rfl
  have size : (Json.object medias).size = .ok medias.length := by
    show Except.ok (medias.map _).length = _
    rw [List.length_map]
  refine ⟨number, fun found returned => ?_⟩
  unfold mediaTypes
  refine Edit.returns_bind.2 ⟨_, d, Edit.returns_refresh.2 ⟨fresh, rfl⟩, ?_⟩
  refine Edit.returns_bind.2 ⟨_, d, Edit.returns_lift.2 ⟨member_orElse, rfl⟩, ?_⟩
  rw [own, Option.getD_some]
  refine Edit.returns_bind.2 ⟨_, d, Edit.returns_lift.2 ⟨size, rfl⟩, ?_⟩
  by_cases count : medias.length = 1
  · rw [if_neg (not_not_intro count)] at returned
    rw [if_neg (by simpa using count)]
    exact Edit.returns_bind.2 ⟨_, d, Edit.returns_lift.2 ⟨rfl, rfl⟩, returned⟩
  · rw [if_pos count] at returned
    rw [if_pos (bne_iff_ne.2 count)]
    exact returned

theorem returns_write_object {which : Which} {value : Json}
    (lands : Lands d.document mapper.target (.object path)) :
    Edit.Returns (mapper.write which value) d ()
      { d with document := Json.amendAt (Json.put which.key value) path d.document } := by
  unfold write
  generalize mapper.target = target at lands
  cases lands with
  | node stands => exact stands.assign
  | @media body path entries inner position name stands content placed =>
      obtain ⟨number, returned⟩ := @returns_mediaTypes_object mapper d d _ _ _ _ _ stands content placed
      have found := returned _ (Edit.returns_pure.2 ⟨rfl, rfl⟩)
      refine Edit.returns_bind.2 ⟨_, d, found, ?_⟩
      refine Edit.returns_forM_cons.2 ⟨(), _, ?_, Edit.returns_forM_nil.2 rfl⟩
      have below : IsObjectAt d.document
          ⟨.object inner, some ⟨number, path ++ [position] ++ [0]⟩⟩ (path ++ [position, 0]) inner := by
        refine ⟨⟨inner, rfl⟩, ⟨number, by simp⟩, ?_⟩
        rw [Json.at?_append, stands.here]
        simp only [Option.bind_some, Json.at?, Json.getElem?_of_find? placed content]
        rfl
      exact below.assign

theorem returns_write_nowhere {which : Which} {value : Json}
    (lands : Lands d.document mapper.target .nowhere) :
    Edit.Returns (mapper.write which value) d () d := by
  unfold write
  generalize mapper.target = target at lands
  cases lands with
  | noBody => exact Edit.returns_pure.2 ⟨rfl, rfl⟩
  | noContent stands none =>
      refine Edit.returns_bind.2 ⟨_, d, returns_mediaTypes_noContent stands none, ?_⟩
      exact Edit.returns_forM_nil.2 rfl

theorem returns_write_miscounted {which : Which} {value : Json}
    (lands : Lands d.document mapper.target .miscounted) :
    Edit.Returns (mapper.write which value) d ()
      { d with diagnostics := d.diagnostics ++ [mapper.miscount] } := by
  unfold write
  generalize mapper.target = target at lands
  cases lands with
  | miscounted stands content count =>
      obtain ⟨position, placed⟩ := Json.exists_position? content
      obtain ⟨number, returned⟩ := returns_mediaTypes_object stands content placed
      rw [if_pos count] at returned
      refine Edit.returns_bind.2 ⟨[], _, returned _ ?_, Edit.returns_forM_nil.2 rfl⟩
      refine Edit.returns_bind.2 ⟨(), _, Edit.returns_report.2 rfl, ?_⟩
      exact Edit.returns_pure.2 ⟨rfl, rfl⟩

end

/-! ## Many calls -/

section

variable {mapper : ExampleMapper} {landing : Landing} {which own : Which} {response : Response}
  {d e : Draft} {n m : Nat}

/-- A response is what a call does that asks for its kind. -/
theorem returns_set_of_responds (free : inConflict mapper.annotations = false)
    (responds : Responds mapper landing which response)
    (lands : Lands d.document mapper.target landing) :
    Edit.Returns (mapper.set which) d () (response.times 1 d) := by
  have enabled : mapper.isDisabled = false := free
  unfold set
  rw [enabled]
  cases responds with
  | unannotated missing =>
      rw [annotated?_of_none missing]
      exact Edit.returns_pure.2 ⟨rfl, rfl⟩
  | noValue found missing =>
      rw [annotated?_of_noValue found missing]
      exact Edit.returns_report.2 rfl
  | malformed found given refused =>
      rw [annotated?_of_text found given, refused]
      exact Edit.returns_report.2 rfl
  | written found given decoded formed =>
      rw [annotated?_of_text found given, decode_of_hasForm decoded formed]
      exact returns_write_object lands
  | nowhere found given decoded formed =>
      rw [annotated?_of_text found given, decode_of_hasForm decoded formed]
      exact returns_write_nowhere lands
  | miscounted found given decoded formed =>
      rw [annotated?_of_text found given, decode_of_hasForm decoded formed]
      exact returns_write_miscounted lands

/-- What the calls do does not move the landing. -/
theorem Responds.lands (responds : Responds mapper landing which response)
    (lands : Lands d.document mapper.target landing) :
    Lands (response.times n d).document mapper.target landing := by
  cases responds with
  | written =>
      cases n with
      | zero => exact lands
      | succ n => exact lands.written
  | _ => exact lands

/-- No other kind of examples than this one is annotated. -/
def Only (mapper : ExampleMapper) (which : Which) : Prop :=
  ∀ other, other ≠ which → find? mapper.annotations other = none

/-- A call for a kind counts when it is the kind that is annotated. -/
theorem returns_set_times (free : inConflict mapper.annotations = false)
    (only : mapper.Only which) (responds : Responds mapper landing which response)
    (lands : Lands d.document mapper.target landing) :
    Edit.Returns (mapper.set own) (response.times n d) ()
      (response.times (n + if own = which then 1 else 0) d) := by
  by_cases same : own = which
  · rw [if_pos same, ← Response.times_times, same]
    exact returns_set_of_responds free responds (responds.lands lands)
  · rw [if_neg same]
    exact returns_set_of_responds free (.unannotated (only own same)) (responds.lands lands)

theorem returns_perform_times (free : inConflict mapper.annotations = false)
    (only : mapper.Only which) (responds : Responds mapper landing which response)
    (lands : Lands d.document mapper.target landing) (call : Call) :
    Edit.Returns (mapper.perform call) (response.times n d) ()
      (response.times (n + if call.asks which then 1 else 0) d) := by
  have each (own : Which) (n : Nat) : Edit.Returns (mapper.set own) (response.times n d) ()
      (response.times (n + if own = which then 1 else 0) d) :=
    returns_set_times free only responds lands
  cases call with
  | set own =>
      show Edit.Returns (mapper.set own) _ _ (response.times (n + if decide _ then 1 else 0) d)
      simp only [decide_eq_true_eq]
      exact each own n
  | apply =>
      refine Edit.returns_bind.2 ⟨(), _, each .example n, ?_⟩
      match which with
      | .example => exact each .examples (n + 1)
      | .examples => exact each .examples n

/-- After many calls the response was given as often as its kind was asked for. -/
theorem returns_forM_times (free : inConflict mapper.annotations = false)
    (only : mapper.Only which) (responds : Responds mapper landing which response)
    (lands : Lands d.document mapper.target landing) (calls : List Call) :
    Edit.Returns (calls.forM mapper.perform) (response.times n d) ()
      (response.times (n + calls.countP (Call.asks which)) d) := by
  induction calls generalizing n with
  | nil => exact Edit.returns_forM_nil.2 rfl
  | cons call calls ih =>
      refine Edit.returns_forM_cons.2 ⟨(), _, returns_perform_times free only responds lands call, ?_⟩
      rw [List.countP_cons, Nat.add_comm (calls.countP _), ← Nat.add_assoc]
      exact ih

/-- Without a conflict the calls come to the response of the kind that is annotated. -/
theorem returns_serve (free : inConflict mapper.annotations = false)
    (only : mapper.Only which) (responds : Responds mapper landing which response)
    (lands : Lands d.document mapper.target landing) (calls : List Call) :
    Edit.Returns (mapper.serve calls) d () (response.times (calls.countP (Call.asks which)) d) := by
  have silent : mapper.start = pure () := if_neg (ne_true_of_eq_false free)
  have called := returns_forM_times (n := 0) free only responds lands calls
  rw [Response.times_zero, Nat.zero_add] at called
  rw [serve, silent]
  exact called

/-- In conflict no call does anything. -/
theorem returns_perform_of_conflict (conflict : inConflict mapper.annotations = true)
    (call : Call) : Edit.Returns (mapper.perform call) d () d := by
  have idle (which : Which) : Edit.Returns (mapper.set which) d () d := by
    have disabled : mapper.isDisabled = true := conflict
    unfold set
    rw [disabled]
    exact Edit.returns_pure.2 ⟨rfl, rfl⟩
  cases call with
  | set own => exact idle own
  | apply => exact Edit.returns_bind.2 ⟨(), d, idle .example, idle .examples⟩

theorem returns_serve_of_conflict (conflict : inConflict mapper.annotations = true)
    (calls : List Call) : Edit.Returns (mapper.serve calls) d ()
      { d with diagnostics := d.diagnostics ++ [mapper.conflict] } := by
  have reports : mapper.start = Edit.report .conflictingExampleAnnotations [mapper.name.plain]
      mapper.location := if_pos conflict
  rw [serve, reports]
  refine Edit.returns_bind.2 ⟨(), _, Edit.returns_report.2 rfl, ?_⟩
  induction calls with
  | nil => exact Edit.returns_forM_nil.2 rfl
  | cons call calls ih =>
      exact Edit.returns_forM_cons.2 ⟨(), _, returns_perform_of_conflict conflict call, ih⟩

/-- Without a conflict one kind of examples at most is annotated. -/
theorem exists_only (free : inConflict mapper.annotations = false) :
    ∃ which, mapper.Only which := by
  rw [inConflict, Bool.and_eq_false_iff, Option.isSome_eq_false_iff, Option.isSome_eq_false_iff,
    Option.isNone_iff_eq_none, Option.isNone_iff_eq_none] at free
  rcases free with missing | missing
  · refine ⟨.examples, fun other apart => ?_⟩
    match other with
    | .example => exact missing
    | .examples => exact absurd rfl apart
  · refine ⟨.example, fun other apart => ?_⟩
    match other with
    | .example => exact absurd rfl apart
    | .examples => exact missing

/-- The document depends on whether the response was given, not on how often. -/
theorem Response.document_times (same : n = 0 ↔ m = 0) :
    (response.times n d).document = (response.times m d).document := by
  cases response with
  | write path key value =>
      by_cases none : n = 0
      · rw [none, same.1 none]
      · simp only [times, none, mt same.2 none, if_false]
  | _ => rfl

/-! ## The whole behaviour -/

/-- How a mapper behaves, whatever it is asked and however often. -/
structure Behaves (mapper : ExampleMapper) (landing : Landing) (d : Draft) : Prop where
  /-- With both kinds annotated the conflict is reported once, and nothing else happens. -/
  conflicting : inConflict mapper.annotations = true → ∀ calls,
    Edit.Returns (mapper.serve calls) d ()
      { d with diagnostics := d.diagnostics ++ [mapper.conflict] }
  /-- Otherwise each call that asks for the one kind that may be annotated gives its response,
  and what is reported instead of writing is an error. -/
  responding : inConflict mapper.annotations = false → ∃ which response, mapper.Only which ∧
    Responds mapper landing which response ∧
      (∀ diagnostic, response = .refuse diagnostic → diagnostic.isError = true) ∧
        ∀ calls, Edit.Returns (mapper.serve calls) d ()
          (response.times (calls.countP (Call.asks which)) d)
  /-- The same kinds of calls come to the same document. -/
  kinds : ∀ {calls calls' e e'}, (∀ call, call ∈ calls ↔ call ∈ calls') →
    Edit.Returns (mapper.serve calls) d () e → Edit.Returns (mapper.serve calls') d () e' →
      e.document = e'.document

/-- No literal of the mapper stops the decoder. -/
def Unstuck (mapper : ExampleMapper) : Prop :=
  ∀ which tag text, find? mapper.annotations which = some tag →
    tag.field? valueField = some text → ¬ Literal.Stuck text

/-- A mapper that behaves without a conflict has no literal that stops the decoder. -/
theorem Behaves.unstuck (behaves : Behaves mapper landing d)
    (free : inConflict mapper.annotations = false) : mapper.Unstuck := by
  obtain ⟨which, response, only, responds, -, -⟩ := behaves.responding free
  intro own tag text found given
  by_cases same : own = which
  · subst same
    exact responds.not_stuck found given
  · cases (only own same).symm.trans found

/-- A mapper behaves exactly when it is in conflict or no literal of it stops the decoder. -/
theorem behaves_iff (lands : Lands d.document mapper.target landing) :
    Behaves mapper landing d ↔ inConflict mapper.annotations = true ∨ mapper.Unstuck := by
  constructor
  · intro behaves
    by_cases conflict : inConflict mapper.annotations = true
    · exact .inl conflict
    · exact .inr (behaves.unstuck (Bool.eq_false_of_not_eq_true conflict))
  intro readable
  have responding (free : inConflict mapper.annotations = false) : ∃ which response,
      mapper.Only which ∧ Responds mapper landing which response := by
    have readable := readable.resolve_left (ne_true_of_eq_false free)
    obtain ⟨which, only⟩ := exists_only free
    obtain ⟨response, responds⟩ := exists_responds (readable which)
    exact ⟨which, response, only, responds⟩
  refine ⟨returns_serve_of_conflict, fun free => ?_, fun {calls calls' e e'} same first second => ?_⟩
  · obtain ⟨which, response, only, responds⟩ := responding free
    refine ⟨which, response, only, responds, ?_, returns_serve free only responds lands⟩
    rintro diagnostic rfl
    exact responds.isError
  · cases conflict : inConflict mapper.annotations with
    | true =>
        rw [(first.unique (returns_serve_of_conflict conflict calls)).2,
          (second.unique (returns_serve_of_conflict conflict calls')).2]
    | false =>
        obtain ⟨which, response, only, responds⟩ := responding conflict
        rw [(first.unique (returns_serve conflict only responds lands calls)).2,
          (second.unique (returns_serve conflict only responds lands calls')).2]
        apply Response.document_times
        rw [List.countP_eq_zero, List.countP_eq_zero]
        exact forall_congr' fun call => imp_congr_left (same call)

/-- A request body with one media type, which is empty. -/
def oneMedia : Json := .object [("content", .object [("application/json", .object [])])]

/-- The mapper of an annotated example onto the request body with one media type. -/
def ontoMedia (text : String) : ExampleMapper :=
  ⟨.request (some (.root 0 oneMedia)), .str "pet", [annotationOf .example text], none⟩

/-- An example lands on the only media type of a request body. -/
theorem behaves_iff_ontoMedia : Lands oneMedia (ontoMedia "1").target (.object ([] ++ [0, 0])) ∧
    Behaves (ontoMedia "1") (.object ([] ++ [0, 0])) { document := oneMedia } := by
  have lands : Lands oneMedia (ontoMedia "1").target (.object ([] ++ [0, 0])) :=
    .media ⟨⟨_, rfl⟩, ⟨0, rfl⟩, rfl⟩ rfl rfl
  refine ⟨lands, (behaves_iff lands).2 (.inr ?_)⟩
  rintro (_ | _) tag text ⟨⟩ ⟨⟩
  have decoded : Literal.decode "1" = .ok (.int 1) := rfl
  exact Literal.answered_decode_iff.1 (decoded ▸ .ok)

/-- A call for a literal that stops the decoder does not come back. -/
theorem not_returns_set_of_stuck {tag : Annotation} {text : String}
    (free : inConflict mapper.annotations = false)
    (found : find? mapper.annotations which = some tag)
    (given : tag.field? valueField = some text) (stuck : Literal.Stuck text) :
    ¬ Edit.Returns (mapper.set which) d () e := by
  have enabled : mapper.isDisabled = false := free
  unfold set
  rw [enabled, annotated?_of_text found given, decode]
  cases decoded : Literal.decode text with
  | ok value => exact absurd stuck (Literal.answered_decode_iff.1 (decoded ▸ .ok))
  | error fault =>
      cases fault with
      | malformed why => exact absurd stuck (Literal.answered_decode_iff.1 (decoded ▸ .malformed))
      | _ => exact Edit.not_returns_throw

theorem not_returns_serve_of_stuck {text word : String} {name : Json} {location : Option Location}
    (stuck : Literal.Stuck text) :
    ¬ Edit.Returns ((ontoEmpty word name [annotationOf which text] location).serve [.set which])
      d () e := by
  intro returned
  obtain ⟨_, f, -, called⟩ := Edit.returns_bind.1 returned
  obtain ⟨_, g, set, -⟩ := Edit.returns_forM_cons.1 called
  have found : find? [annotationOf which text] which = some (annotationOf which text) :=
    find?_annotationOf.trans (if_pos rfl)
  exact not_returns_set_of_stuck inConflict_annotationOf found rfl stuck set

/-- Onto an empty object the sum that stops the decoder is neither written nor reported. -/
theorem not_returns_serve_longSum :
    Lands (.object []) (ontoEmpty "type" (.str "Pet") [annotationOf .example Literal.longSum] none).target
        (.object []) ∧
      ∀ e, ¬ Edit.Returns
        ((ontoEmpty "type" (.str "Pet") [annotationOf .example Literal.longSum] none).serve
          [.set .example]) { document := .object [] } () e :=
  ⟨.node ⟨⟨_, rfl⟩, ⟨0, rfl⟩, rfl⟩, fun _ => not_returns_serve_of_stuck Literal.stuck_longSum⟩

end

end ExampleMapper

end TypedContract
