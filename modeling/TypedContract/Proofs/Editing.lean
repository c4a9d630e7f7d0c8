/-
# TypedContract.Proofs.Editing -- what it takes for an edit to come back

A step of an edit maps a draft to a result or a fault and to the draft after it.
`Edit.Returns step d a e` says that `step`, begun on the draft `d`, comes back with `a`
and leaves `e`.  As for the steps of a run, each way of putting edits together has one
lemma that says when it returns.
-/
import TypedContract.Example.Mapper

namespace TypedContract.Edit

set_option autoImplicit false

variable {α β : Type} {d e : Draft}

/-- The step comes back with a result and leaves a draft. -/
def Returns (step : Edit α) (d : Draft) (a : α) (e : Draft) : Prop := step.run d = (.ok a, e)

theorem Returns.unique {step : Edit α} {a a' : α} {e' : Draft} (first : Returns step d a e)
    (second : Returns step d a' e') : a = a' ∧ e = e' := by
  have same : ((.ok a, e) : Except Fault α × Draft) = (.ok a', e') := first.symm.trans second
  simpa using same

/-- The step comes back, and its result and the draft after it pass a check. -/
def passes (step : Edit α) (d : Draft) (check : α → Draft → Bool) : Bool :=
  match step.run d with
  | (.ok a, e) => check a e
  | (.error _, _) => false

/-- A step that passes a check comes back with such a result and draft. -/
theorem exists_returns_of {step : Edit α} {check : α → Draft → Bool}
    (ok : step.passes d check = true) : ∃ a e, Returns step d a e ∧ check a e = true := by
  unfold Returns
  unfold passes at ok
  generalize step.run d = outcome at ok
  obtain ⟨result, e⟩ := outcome
  cases result with
  | ok a => exact ⟨a, e, rfl, ok⟩
  | error fault => cases ok

/-! ## Putting steps together -/

theorem run_bind (step : Edit α) (next : α → Edit β) (d : Draft) :
    (step >>= next).run d =
      match step.run d with
      | (.ok a, e) => (next a).run e
      | (.error fault, e) => (.error fault, e) := by
  change (ExceptT.bind step next).run d = _
  simp only [ExceptT.bind, ExceptT.run, ExceptT.mk, bind, StateT.bind, ExceptT.bindCont]
  cases step d with
  | mk result e => cases result <;> rfl

@[simp] theorem returns_bind {step : Edit α} {next : α → Edit β} {b : β} :
    Returns (step >>= next) d b e ↔ ∃ a f, Returns step d a f ∧ Returns (next a) f b e := by
  unfold Returns
  rw [run_bind]
  generalize step.run d = outcome
  obtain ⟨result, f⟩ := outcome
  cases result with
  | ok a =>
      constructor
      · exact fun h => ⟨a, f, rfl, h⟩
      · rintro ⟨a', f', same, h⟩
        cases same
        exact h
  | error fault =>
      constructor
      · intro h
        cases h
      · rintro ⟨a', f', same, -⟩
        cases same

@[simp] theorem returns_pure {a b : α} : Returns (pure a) d b e ↔ a = b ∧ d = e := by
  constructor
  · intro h
    cases h
    exact ⟨rfl, rfl⟩
  · rintro ⟨rfl, rfl⟩
    rfl

theorem returns_forM_nil {step : α → Edit PUnit} {a : PUnit} :
    Returns (List.forM [] step) d a e ↔ d = e := by
  change Returns (pure ⟨⟩) d a e ↔ _
  rw [returns_pure]
  exact and_iff_right rfl

theorem returns_forM_cons {x : α} {xs : List α} {step : α → Edit PUnit} {a : PUnit} :
    Returns (List.forM (x :: xs) step) d a e ↔
      ∃ b f, Returns (step x) d b f ∧ Returns (List.forM xs step) f a e := by
  change Returns (step x >>= fun _ => List.forM xs step) d a e ↔ _
  rw [returns_bind]

/-! ## The steps themselves -/

@[simp] theorem returns_lift {result : Except Fault α} {a : α} :
    Returns (lift result) d a e ↔ result = .ok a ∧ d = e := by
  cases result with
  | ok b =>
      constructor
      · intro h
        cases h
        exact ⟨rfl, rfl⟩
      · rintro ⟨same, rfl⟩
        cases same
        rfl
  | error fault =>
      constructor
      · intro h
        cases h
      · rintro ⟨same, -⟩
        cases same

theorem not_returns_throw {fault : Fault} {a : α} : ¬ Returns (throw fault : Edit α) d a e := by
  intro h
  cases h

@[simp] theorem returns_get {f : Draft} : Returns get d f e ↔ d = f ∧ d = e := by
  constructor
  · intro h
    cases h
    exact ⟨rfl, rfl⟩
  · rintro ⟨rfl, rfl⟩
    rfl

theorem returns_gets {reading : Draft → α} {a : α} :
    Returns (do return reading (← get)) d a e ↔ reading d = a ∧ d = e := by
  simp only [returns_bind, returns_get, returns_pure]
  constructor
  · rintro ⟨f, g, ⟨rfl, rfl⟩, rfl, rfl⟩
    exact ⟨rfl, rfl⟩
  · rintro ⟨rfl, rfl⟩
    exact ⟨d, d, ⟨rfl, rfl⟩, rfl, rfl⟩

@[simp] theorem returns_modify {change : Draft → Draft} {a : PUnit} :
    Returns (modify change) d a e ↔ change d = e := by
  constructor
  · intro h
    cases h
    rfl
  · rintro rfl
    rfl

@[simp] theorem returns_report {code : Diagnostic.Code} {args : List String}
    {location : Option Location} {a : Unit} :
    Returns (report code args location) d a e ↔
      { d with diagnostics := d.diagnostics ++ [⟨code, args, location⟩] } = e := returns_modify

@[simp] theorem returns_note {level : Log.Level} {source : Log.Source} {message : String}
    {a : Unit} :
    Returns (note level source message) d a e ↔
      { d with log := d.log ++ [⟨level, source, message⟩] } = e := returns_modify

@[simp] theorem returns_root {node : Node} :
    Returns root d node e ↔ Node.root 0 d.document = node ∧ d = e := by
  exact returns_gets

end TypedContract.Edit

/-! ## Nodes as they are now -/

namespace TypedContract

/-- The node with the value that stands at its place in a document. -/
def Node.refreshed (node : Node) (document : Json) : Node :=
  match node.place, node.value with
  | some place, .object _ => { node with value := (document.at? place.path).getD node.value }
  | some place, .list _ => { node with value := (document.at? place.path).getD node.value }
  | _, _ => node

namespace Edit

variable {d e : Draft} {node : Node}

@[simp] theorem returns_refresh {result : Node} :
    Returns (refresh node) d result e ↔ node.refreshed d.document = result ∧ d = e := by
  obtain ⟨value, place⟩ := node
  cases place with
  | none => exact returns_pure
  | some place =>
      cases value with
      | object entries => exact returns_gets
      | list items => exact returns_gets
      | _ => exact returns_pure

/-- The document after a key of a node was assigned, with the entries of the node. -/
def assigned (node : Node) (name : String) (value : Json) (entries : List (String × Json))
    (document : Json) : Json :=
  match node.place with
  | some place => Json.replaceAt (.object (Json.put name value entries)) place.path document
  | none => document

/-- A key can be assigned to an object only. -/
theorem returns_assign {name : String} {value : Json} {a : Unit} :
    Returns (assign node name value) d a e ↔
      ∃ entries, (node.refreshed d.document).value = .object entries ∧
        { d with document := assigned node name value entries d.document } = e := by
  have placed : (node.refreshed d.document).place = node.place := by
    unfold Node.refreshed
    split <;> rfl
  unfold assign assigned
  simp only [returns_bind, returns_refresh, returns_lift]
  constructor
  · rintro ⟨fresh, f, ⟨rfl, rfl⟩, changed, g, ⟨assigned, rfl⟩, written⟩
    cases kind : (node.refreshed d.document).value with
    | object entries =>
        rw [kind] at assigned
        cases assigned
        rw [placed] at written
        refine ⟨entries, rfl, ?_⟩
        cases here : node.place with
        | some place => rw [here] at written; exact returns_modify.1 written
        | none => rw [here] at written; exact (returns_pure.1 written).2
    | _ => rw [kind] at assigned; cases assigned
  · rintro ⟨entries, kind, rfl⟩
    refine ⟨_, d, ⟨rfl, rfl⟩, _, d, ⟨by rw [kind]; rfl, rfl⟩, ?_⟩
    rw [placed]
    cases here : node.place with
    | some place => exact returns_modify.2 rfl
    | none => exact returns_pure.2 ⟨rfl, rfl⟩

end Edit

end TypedContract
