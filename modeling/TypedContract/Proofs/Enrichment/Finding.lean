/-
# TypedContract.Proofs.Enrichment.Finding -- which parameter a name stands for

The mapper of examples looks for a parameter among the entries of an operation and then
those of its path; an entry that is a reference counts for what it leads to in one step.
The search writes nothing, so on a draft it is a reading of the document: `search`.  It
returns a parameter exactly when an entry leads to it and no entry before that is a rival,
one that is taken instead or whose name cannot be read (`search_eq_some_iff`).
-/
import TypedContract.Proofs.Editing
import TypedContract.Proofs.Json.Standing
import TypedContract.Proofs.Signature.Origins
import TypedContract.Enrichment

namespace TypedContract

set_option autoImplicit false

/-- What stands in a document is fresh. -/
theorem Node.Stands.refreshed {node : Node} {contract : Json} (stands : node.Stands 0 contract) :
    node.refreshed contract = node := by
  obtain ⟨value, place⟩ := node
  cases place with
  | none => rfl
  | some place =>
      obtain ⟨-, here⟩ := stands place rfl
      cases value <;> simp_all [Node.refreshed]

/-! ## Edits that only read -/

/-- On the draft the step comes to the result and leaves the draft as it is. -/
def Edit.Reads {α : Type} (d : Draft) (step : Edit α) (result : Except Fault α) : Prop :=
  step.run d = (result, d)

namespace Edit.Reads

variable {α β : Type} {d e : Draft} {step : Edit α} {result : Except Fault α}
  {result' : Except Fault β}

theorem returns_iff (reads : Reads d step result) {a : α} :
    Returns step d a e ↔ result = .ok a ∧ d = e := by
  rw [Returns, reads, Prod.mk.injEq]

theorem pure {a : α} : Reads d (Pure.pure a) (.ok a) := rfl

theorem lift : Reads d (Edit.lift result) result := rfl

theorem throw {fault : Fault} : Reads d (throw fault : Edit α) (.error fault) := rfl

theorem root : Reads d Edit.root (.ok (.root 0 d.document)) := rfl

theorem refresh {node : Node} : Reads d (Edit.refresh node) (.ok (node.refreshed d.document)) := by
  obtain ⟨value, place⟩ := node
  cases place with
  | none => rfl
  | some place => cases value <;> rfl

theorem bind {next : α → Edit β} {rest : α → Except Fault β} (first : Reads d step result)
    (others : ∀ a, result = .ok a → Reads d (next a) (rest a)) :
    Reads d (step >>= next) (result >>= rest) := by
  rw [Reads, run_bind, first]
  cases result with
  | ok a => exact others a rfl
  | error fault => rfl

/-- A first step that is known to succeed. -/
theorem next {next : α → Edit β} {a : α} (first : Reads d step (.ok a))
    (others : Reads d (next a) result') : Reads d (step >>= next) result' :=
  show Reads d (step >>= next) ((Except.ok a : Except Fault α) >>= fun _ => result') from
    bind first fun _ same => Except.ok.inj same ▸ others

end Edit.Reads

namespace Enrichment

variable {d e : Draft} {document raw node : Node} {raws : List Node} {location wanted : String}

/-! ## One entry -/

/-- The part that a reference leads to; none when it leads nowhere or to `null`. -/
def referred (document node : Node) : Except Fault (Option Node) := do
  match Pointer.resolve document (← node.value.required "$ref") with
  | .ok target => return if target.value.isNull then none else some target
  | .error (.missingKey _) => return none
  | .error fault => throw fault

/-- The part that an entry of a list stands for. -/
def entered (document raw : Node) : Except Fault (Option Node) := do
  if ← raw.value.holds "$ref" then referred document raw else return some raw

/-- The parameter has the location and the canonical name. -/
def isWanted (location wanted : String) (parameter : Node) : Except Fault Bool := do
  if !(← parameter.value.member "in").same (.str location) then return false
  let name := (← parameter.value.member? "name").getD (.str "")
  return Name.display (← name.text) == wanted

/-- The first wanted parameter that entries stand for. -/
def search (document : Node) (location wanted : String) : List Node → Except Fault (Option Node)
  | [] => return none
  | raw :: rest => do
      match ← entered document raw with
      | none => search document location wanted rest
      | some parameter =>
          if ← isWanted location wanted parameter then return some parameter
          search document location wanted rest

theorem reads_resolve? : Edit.Reads d (resolve? raw) (referred (.root 0 d.document) raw) := by
  refine .bind .lift fun ref _ => .next .root ?_
  cases Pointer.resolve (.root 0 d.document) ref with
  | ok target => exact .pure
  | error fault => cases fault <;> exact rfl

/-- The rest of the search once an entry stands for a parameter. -/
theorem reads_parameter {parameter : Node} {further : Edit (Option Node)}
    {found : Except Fault (Option Node)} (rest : Edit.Reads d further found) :
    Edit.Reads d (do
        let place ← Edit.lift (parameter.value.member "in")
        if !place.same (.str location) then further
        else
          let name := (← Edit.lift (parameter.value.member? "name")).getD (.str "")
          if Name.display (← Edit.lift name.text) == wanted then return some parameter
          else further)
      (do if ← isWanted location wanted parameter then return some parameter else found) := by
  unfold isWanted
  simp only [bind_assoc]
  refine .bind .lift fun place _ => ?_
  cases place.same (.str location) with
  | false => exact rest
  | true =>
      simp only [Bool.not_true, Bool.false_eq_true, if_false, bind_assoc, pure_bind]
      refine .bind .lift fun name? _ => .bind .lift fun name _ => ?_
      cases Name.display name == wanted with
      | false => exact rest
      | true => exact .pure

/-- The search answers from the document. -/
theorem reads_findParameter? (stand : ∀ raw ∈ raws, raw.Stands 0 d.document) :
    Edit.Reads d (findParameter? location wanted raws)
      (search (.root 0 d.document) location wanted raws) := by
  induction raws with
  | nil => exact .pure
  | cons raw rest ih =>
      obtain ⟨first, others⟩ := List.forall_mem_cons.1 stand
      have further := ih others
      have fresh : Edit.Reads d (Edit.refresh raw) (.ok raw) := by
        have same : Edit.Reads d (Edit.refresh raw) (.ok (raw.refreshed d.document)) := .refresh
        rwa [first.refreshed] at same
      unfold findParameter? search entered
      simp only [bind_assoc]
      refine .next fresh (.bind .lift fun isReference _ => ?_)
      cases isReference with
      | false => exact reads_parameter further
      | true =>
          refine .bind reads_resolve? fun parameter? _ => ?_
          cases parameter? with
          | none => exact further
          | some parameter => exact reads_parameter further

theorem reads_parameterOf? {name : Json} (stand : ∀ raw ∈ raws, raw.Stands 0 d.document) :
    Edit.Reads d (parameterOf? location name raws)
      (do search (.root 0 d.document) location (Name.display (← name.text)) raws) :=
  .bind .lift fun _ _ => reads_findParameter? stand

/-! ## Rivals -/

/-- The name that is read of a parameter. -/
def nameOf (parameter : Node) : Json :=
  (Json.find? "name" parameter.value.held).getD (.str "")

/-- The search ends at the part: it has the location and the canonical name, or a name that
is no text. -/
def IsRival (location wanted : String) (part : Node) : Prop :=
  part.value.under "in" = .str location ∧
    ∀ name, nameOf part = .str name → Name.display name = wanted

theorem isWanted_of_located {part : Node} {entries : List (String × Json)}
    (object : part.value = .object entries) (located : part.value.under "in" = .str location) :
    isWanted location wanted part =
      (nameOf part).text.map fun name => Name.display name == wanted := by
  have member : part.value.member "in" = .ok (part.value.under "in") := by rw [object]; rfl
  have member? : part.value.member? "name" = .ok (Json.find? "name" part.value.held) := by
    rw [object]; rfl
  unfold isWanted
  rw [member, except_ok_bind, member?, Json.same_text_iff.2 located]
  change (nameOf part).text >>= _ = _
  cases (nameOf part).text <;> rfl

theorem isWanted_of_not_located {part : Node} {entries : List (String × Json)}
    (object : part.value = .object entries) (elsewhere : part.value.under "in" ≠ .str location) :
    isWanted location wanted part = .ok false := by
  have member : part.value.member "in" = .ok (part.value.under "in") := by rw [object]; rfl
  have apart : (part.value.under "in").same (.str location) = false :=
    Bool.eq_false_iff.2 fun same => elsewhere (Json.same_text_iff.1 same)
  unfold isWanted
  rw [member, except_ok_bind, apart]
  rfl

theorem isWanted_eq_false_iff {part : Node} {entries : List (String × Json)}
    (object : part.value = .object entries) :
    isWanted location wanted part = .ok false ↔ ¬ IsRival location wanted part := by
  unfold IsRival
  by_cases located : part.value.under "in" = .str location
  · rw [isWanted_of_located object located, and_iff_right located]
    cases nameOf part with
    | str name => simp [Json.text, Except.map]
    | _ => exact iff_of_false nofun fun rival => rival nofun
  · exact iff_of_true (isWanted_of_not_located object located) fun rival => located rival.1

theorem search_cons {part : Node} {rest : List Node} (first : entered document raw = .ok (some part)) :
    search document location wanted (raw :: rest) = (do
      if ← isWanted location wanted part then return some part
      search document location wanted rest) := by
  rw [search, first]
  rfl

/-! ## The first of a list -/

section

variable {α : Type} {passes : α → Prop} {x y : α} {xs : List α}

/-- If the head passes, it is the first that does. -/
theorem exists_first_cons_of_pos (own : passes x) :
    (∃ front back, x :: xs = front ++ y :: back ∧ ∀ z ∈ front, ¬ passes z) ↔ x = y := by
  constructor
  · rintro ⟨front, back, split, free⟩
    cases front with
    | nil => cases split; rfl
    | cons z front =>
        cases split
        exact absurd own (free x List.mem_cons_self)
  · rintro rfl
    exact ⟨[], xs, rfl, fun _ none => absurd none List.not_mem_nil⟩

/-- If the head fails, the first that passes is the first of the tail. -/
theorem exists_first_cons_of_neg (own : ¬ passes x) (wanted : passes y) :
    (∃ front back, x :: xs = front ++ y :: back ∧ ∀ z ∈ front, ¬ passes z) ↔
      ∃ front back, xs = front ++ y :: back ∧ ∀ z ∈ front, ¬ passes z := by
  constructor
  · rintro ⟨front, back, split, free⟩
    cases front with
    | nil =>
        cases split
        exact absurd wanted own
    | cons z front =>
        cases split
        exact ⟨front, back, rfl, (List.forall_mem_cons.1 free).2⟩
  · rintro ⟨front, back, rfl, free⟩
    exact ⟨x :: front, back, rfl, List.forall_mem_cons.2 ⟨own, free⟩⟩

end

/-- The search returns a parameter exactly when an entry stands for it and no rival stands
before. -/
theorem search_eq_some_iff {parts : List Node} {entries : List (String × Json)} {name : String}
    (entering : List.Forall₂ (fun raw part => entered document raw = .ok (some part)) raws parts)
    (objects : ∀ part ∈ parts, ∃ entries, part.value = .object entries)
    (object : node.value = .object entries) (located : node.value.under "in" = .str location)
    (named : node.value.under "name" = .str name) (canonical : Name.display name = wanted) :
    search document location wanted raws = .ok (some node) ↔
      ∃ front back, parts = front ++ node :: back ∧
        ∀ other ∈ front, ¬ IsRival location wanted other := by
  have called : nameOf node = .str name := by
    unfold nameOf
    unfold Json.under at named
    cases found : Json.find? "name" node.value.held with
    | none => rw [found] at named; cases named
    | some held => rw [found] at named; exact named
  have rival : IsRival location wanted node :=
    ⟨located, fun other same => by rw [← Json.str.inj (called.symm.trans same), canonical]⟩
  have wants : isWanted location wanted node = .ok true := by
    rw [isWanted_of_located object located, called, Json.text, ← canonical]
    exact congrArg Except.ok (beq_self_eq_true _)
  induction entering with
  | nil =>
      refine iff_of_false nofun ?_
      rintro ⟨front, back, split, -⟩
      exact List.append_ne_nil_of_right_ne_nil front (List.cons_ne_nil _ _) split.symm
  | @cons raw part rest parts first others ih =>
      obtain ⟨⟨held, isObject⟩, objects⟩ := List.forall_mem_cons.1 objects
      rw [search_cons first]
      -- the search stops at the first rival, which is the node itself or stands before it
      by_cases taken : IsRival location wanted part
      · rw [exists_first_cons_of_pos taken]
        constructor
        · intro found
          obtain ⟨wants, judged, found⟩ := except_bind_eq_ok.1 found
          cases wants with
          | false => exact absurd taken ((isWanted_eq_false_iff isObject).1 judged)
          | true => exact Option.some.inj (Except.ok.inj found)
        · rintro rfl
          rw [wants]
          rfl
      · rw [(isWanted_eq_false_iff isObject).2 taken, exists_first_cons_of_neg taken rival]
        exact ih objects

end Enrichment

end TypedContract
