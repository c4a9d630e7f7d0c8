/-
# TypedContract.Proofs.Contract.Change -- changes of one object and of a document

A `Change` of an object sets an example, or adds a description where there is none that
counts; an `Effect` is a change of the object at a path.  The slot of an effect is its
path and its key.  Effects at different slots commute once the slot of the first is there
(`Effect.on_comm`): a path leads through no key that is changed.  Of two effects at one
slot the later counts (`Effect.on_on_of_replaces`), unless it is a description, which
leaves alone what counts.  So what was done stays done until its slot is set again
(`Effect.IsDone.on`).
-/
import TypedContract.Proofs.Contract.Enriched

namespace TypedContract

set_option autoImplicit false

open Contract (Part)

namespace Json

/-! ## Changing the object at a path -/

/-- Changes the entries of the object at a path. -/
def amendAt (change : List (String × Json) → List (String × Json)) : List Nat → Json → Json
  | [], .object entries => .object (change entries)
  | position :: path, .list items => .list (items.modify position (amendAt change path))
  | position :: path, .object entries =>
      .object (entries.modify position fun entry => (entry.1, amendAt change path entry.2))
  | _, value => value

variable {f g : List (String × Json) → List (String × Json)} {path : List Nat} {value : Json}

theorem amendAt_cons_list {position : Nat} {items : List Json} :
    amendAt f (position :: path) (.list items) = .list (items.modify position (amendAt f path)) := rfl

theorem amendAt_cons_object {position : Nat} {entries : List (String × Json)} :
    amendAt f (position :: path) (.object entries) =
      .object (entries.modify position fun entry => (entry.1, amendAt f path entry.2)) := rfl

theorem modify_congr {α : Type} {f g : α → α} {xs : List α} {position : Nat}
    (same : ∀ x, xs[position]? = some x → f x = g x) :
    xs.modify position f = xs.modify position g := by
  refine List.ext_getElem? fun other => ?_
  rw [List.getElem?_modify, List.getElem?_modify]
  cases found : xs[other]? with
  | none => rfl
  | some x =>
      refine congrArg some ?_
      split
      · rename_i here
        exact same x (here ▸ found)
      · rfl

/-- Only what is done to the object at the path counts. -/
theorem amendAt_congr (same : ∀ entries, value.at? path = some (.object entries) →
    f entries = g entries) : amendAt f path value = amendAt g path value := by
  induction path generalizing value with
  | nil =>
      cases value with
      | object entries => exact congrArg Json.object (same entries rfl)
      | _ => rfl
  | cons position path ih =>
      cases value with
      | list items =>
          rw [amendAt_cons_list, amendAt_cons_list]
          refine congrArg Json.list (modify_congr fun item here => ih fun entries found => ?_)
          exact same entries (by rw [at?_cons_list, here]; exact found)
      | object entries =>
          rw [amendAt_cons_object, amendAt_cons_object]
          refine congrArg Json.object (modify_congr fun entry here => ?_)
          refine congrArg (Prod.mk entry.1) (ih fun inner found => ?_)
          exact same inner (by rw [at?_cons_object, here]; exact found)
      | _ => rfl

theorem amendAt_id : amendAt id path value = value := by
  induction path generalizing value with
  | nil => cases value <;> rfl
  | cons position path ih =>
      cases value with
      | list items =>
          have same : amendAt id path = id := funext fun item => ih
          rw [amendAt_cons_list, same, List.modify_id]
      | object entries =>
          have same : (fun entry : String × Json => (entry.1, amendAt id path entry.2)) = id :=
            funext fun entry => congrArg (Prod.mk entry.1) ih
          rw [amendAt_cons_object, same, List.modify_id]
      | _ => rfl

theorem amendAt_self (same : ∀ entries, value.at? path = some (.object entries) →
    f entries = entries) : amendAt f path value = value :=
  (amendAt_congr same).trans amendAt_id

theorem amendAt_amendAt : amendAt f path (amendAt g path value) = amendAt (f ∘ g) path value := by
  induction path generalizing value with
  | nil => cases value <;> rfl
  | cons position path ih =>
      cases value with
      | list items =>
          rw [amendAt_cons_list, amendAt_cons_list, amendAt_cons_list, List.modify_modify_eq]
          exact congrArg Json.list (modify_congr fun item _ => ih)
      | object entries =>
          rw [amendAt_cons_object, amendAt_cons_object, amendAt_cons_object, List.modify_modify_eq]
          exact congrArg Json.object (modify_congr fun entry _ => congrArg (Prod.mk entry.1) ih)
      | _ => rfl

theorem at?_amendAt {entries : List (String × Json)}
    (here : value.at? path = some (.object entries)) :
    (amendAt f path value).at? path = some (.object (f entries)) := by
  induction path generalizing value with
  | nil => cases here; rfl
  | cons position path ih =>
      cases value with
      | list items =>
          obtain ⟨item, found, inside⟩ := Option.bind_eq_some_iff.1 here
          rw [amendAt_cons_list, at?_cons_list, List.getElem?_modify_eq, found]
          exact ih inside
      | object entries =>
          obtain ⟨entry, found, inside⟩ := Option.bind_eq_some_iff.1 here
          rw [amendAt_cons_object, at?_cons_object, List.getElem?_modify_eq, found]
          exact ih inside
      | _ => cases here

/-- A change below a place is seen there as a change of what stands there. -/
theorem at?_amendAt_append {more : List Nat} :
    (amendAt f (path ++ more) value).at? path = (value.at? path).map (amendAt f more) := by
  induction path generalizing value with
  | nil => rfl
  | cons position path ih =>
      cases value with
      | list items =>
          rw [List.cons_append, amendAt_cons_list, at?_cons_list, at?_cons_list,
            List.getElem?_modify_eq]
          cases items[position]? with
          | none => rfl
          | some item => exact ih
      | object entries =>
          rw [List.cons_append, amendAt_cons_object, at?_cons_object, at?_cons_object,
            List.getElem?_modify_eq]
          cases entries[position]? with
          | none => rfl
          | some entry => exact ih
      | _ => rfl

/-- Replacing an object is changing all of its entries. -/
theorem replaceAt_object {entries new : List (String × Json)}
    (here : value.at? path = some (.object entries)) :
    replaceAt (.object new) path value = amendAt (fun _ => new) path value := by
  induction path generalizing value with
  | nil => cases here; rfl
  | cons position path ih =>
      cases value with
      | list items =>
          obtain ⟨item, found, inside⟩ := Option.bind_eq_some_iff.1 here
          rw [amendAt_cons_list, replaceAt]
          refine congrArg Json.list (modify_congr fun other same => ih ?_)
          rw [found] at same
          cases same
          exact inside
      | object entries =>
          obtain ⟨entry, found, inside⟩ := Option.bind_eq_some_iff.1 here
          rw [amendAt_cons_object, replaceAt]
          refine congrArg Json.object (modify_congr fun other same => congrArg (Prod.mk other.1) (ih ?_))
          rw [found] at same
          cases same
          exact inside
      | _ => cases here

/-! ## Assigning keys -/

section

variable {name other : String} {new old : Json} {entries : List (String × Json)}

theorem find?_put : find? name (put name new entries) = some new := by
  induction entries with
  | nil => exact if_pos (beq_self_eq_true name)
  | cons entry rest ih =>
      unfold put
      split
      · rename_i same
        exact if_pos same
      · rename_i apart
        exact (if_neg apart).trans ih

theorem find?_put_of_ne (apart : other ≠ name) :
    find? other (put name new entries) = find? other entries := by
  induction entries with
  | nil => exact if_neg fun same => apart (eq_of_beq same).symm
  | cons entry rest ih =>
      obtain ⟨key, value⟩ := entry
      unfold put
      split
      · rename_i same
        have different : ¬ (key == other) = true := fun equal =>
          apart ((eq_of_beq equal).symm.trans (eq_of_beq same))
        exact (if_neg different).trans (if_neg different).symm
      · unfold find?
        rw [ih]

theorem put_put : put name new (put name old entries) = put name new entries := by
  induction entries with
  | nil => exact if_pos (beq_self_eq_true name)
  | cons entry rest ih =>
      obtain ⟨key, value⟩ := entry
      rw [put, put]
      split
      · rename_i same
        exact if_pos same
      · rename_i apart
        exact (if_neg apart).trans (by rw [ih])

theorem put_comm (apart : other ≠ name) (held : (find? name entries).isSome = true) :
    put name new (put other old entries) = put other old (put name new entries) := by
  induction entries with
  | nil => cases held
  | cons entry rest ih =>
      obtain ⟨key, value⟩ := entry
      unfold find? at held
      by_cases own : (key == name) = true
      · have different : ¬ (key == other) = true := fun same =>
          apart ((eq_of_beq same).symm.trans (eq_of_beq own))
        simp only [put, if_pos own, if_neg different]
      · rw [if_neg own] at held
        by_cases same : (key == other) = true
        · simp only [put, if_pos same, if_neg own]
        · simp only [put, if_neg same, if_neg own, ih held]

theorem mem_put {entry : String × Json} (member : entry ∈ put name new entries) :
    entry = (name, new) ∨ entry ∈ entries := by
  induction entries with
  | nil => exact .inl (List.mem_singleton.1 member)
  | cons first rest ih =>
      unfold put at member
      split at member
      · rename_i same
        rcases List.mem_cons.1 member with rfl | inside
        · exact .inl (by rw [eq_of_beq same])
        · exact .inr (List.mem_cons_of_mem _ inside)
      · rcases List.mem_cons.1 member with rfl | inside
        · exact .inr List.mem_cons_self
        · exact (ih inside).imp_right (List.mem_cons_of_mem _)

theorem nodup_put (distinct : (entries.map (·.1)).Nodup) :
    ((put name new entries).map (·.1)).Nodup := by
  induction entries with
  | nil => exact List.pairwise_singleton _ name
  | cons first rest ih =>
      rw [List.map_cons, List.nodup_cons] at distinct
      unfold put
      split
      · rw [List.map_cons, List.nodup_cons]
        exact distinct
      · rename_i apart
        rw [List.map_cons, List.nodup_cons]
        refine ⟨fun again => ?_, ih distinct.2⟩
        obtain ⟨entry, member, same⟩ := List.mem_map.1 again
        rcases mem_put member with rfl | before
        · exact apart (beq_iff_eq.2 same.symm)
        · exact distinct.1 (List.mem_map.2 ⟨entry, before, same⟩)

theorem find?_modify {position : Nat} {f : Json → Json} {entry : String × Json}
    (here : entries[position]? = some entry) (apart : entry.1 ≠ name) :
    find? name (entries.modify position fun entry => (entry.1, f entry.2)) =
      find? name entries := by
  induction entries generalizing position with
  | nil => cases here
  | cons first rest ih =>
      cases position with
      | zero =>
          cases here
          have different : ¬ (entry.1 == name) = true := fun same => apart (eq_of_beq same)
          exact (if_neg different).trans (if_neg different).symm
      | succ position =>
          rw [List.modify_succ_cons]
          unfold find?
          rw [ih here]

theorem position?_modify {position : Nat} {f : Json → Json} :
    position? name (entries.modify position fun entry => (entry.1, f entry.2)) =
      position? name entries := by
  induction entries generalizing position with
  | nil => cases position <;> rfl
  | cons entry rest ih =>
      cases position with
      | zero => rfl
      | succ position =>
          rw [List.modify_succ_cons, position?, position?, ih]

theorem find?_modify_self {position : Nat} {f : Json → Json} {held : Json}
    (here : position? name entries = some position) (found : find? name entries = some held) :
    find? name (entries.modify position fun entry => (entry.1, f entry.2)) = some (f held) := by
  induction entries generalizing position with
  | nil => cases here
  | cons entry rest ih =>
      rw [position?] at here
      rw [find?] at found
      split at here
      · next same =>
          cases here
          rw [if_pos same] at found
          cases found
          exact if_pos same
      · next apart =>
          rw [if_neg apart] at found
          obtain ⟨before, earlier, rfl⟩ := Option.map_eq_some_iff.1 here
          rw [List.modify_succ_cons, find?, if_neg apart]
          exact ih earlier found

theorem put_modify {position : Nat} {f : Json → Json} {entry : String × Json}
    (here : entries[position]? = some entry) (apart : entry.1 ≠ name) :
    put name new (entries.modify position fun entry => (entry.1, f entry.2)) =
      (put name new entries).modify position fun entry => (entry.1, f entry.2) := by
  induction entries generalizing position with
  | nil => cases here
  | cons first rest ih =>
      cases position with
      | zero =>
          cases here
          have different : ¬ (entry.1 == name) = true := fun same => apart (eq_of_beq same)
          rw [List.modify_zero_cons]
          unfold put
          rw [if_neg different, if_neg different, List.modify_zero_cons]
      | succ position =>
          rw [List.modify_succ_cons]
          unfold put
          split
          · rw [List.modify_succ_cons]
          · rw [ih here, List.modify_succ_cons]

end

end Json

namespace Contract

/-! ## Changes of an object -/

/-- What is done to one object. -/
inductive Change where
  /-- Sets the examples of a kind. -/
  | examples (which : Example.Which) (value : Json)
  /-- Adds a description unless there is one that counts. -/
  | description (text : Json)

namespace Change

/-- The key that is changed. -/
def key : Change → String
  | examples which _ => which.key
  | description _ => "description"

/-- The change replaces what stands under its key. -/
def replaces : Change → Bool
  | examples _ _ => true
  | description _ => false

/-- The entries after the change. -/
def on : Change → List (String × Json) → List (String × Json)
  | examples which value, entries => Json.put which.key value entries
  | description text, entries =>
      if ((Json.find? "description" entries).getD .null).truthy then entries
      else Json.put "description" text entries

/-- A description that is added counts. -/
def Counts : Change → Prop
  | examples _ _ => True
  | description text => text.truthy = true

variable {change other : Change} {entries : List (String × Json)}

theorem on_examples {which : Example.Which} {value : Json} :
    (examples which value).on entries = Json.put which.key value entries := rfl

theorem on_description {text : Json} : (description text).on entries =
    if ((Json.find? "description" entries).getD .null).truthy then entries
    else Json.put "description" text entries := rfl

theorem key_examples_ne {which : Example.Which} : which.key ≠ "description" := by
  cases which <;> decide

theorem replaces_of_key (same : other.key = change.key) : other.replaces = change.replaces := by
  match change, other with
  | examples _ _, examples _ _ => rfl
  | examples _ _, description _ => exact absurd same.symm key_examples_ne
  | description _, examples _ _ => exact absurd same key_examples_ne
  | description _, description _ => rfl

/-- Of two changes of one key the later counts. -/
theorem on_on_of_replaces (same : other.key = change.key) (replaces : other.replaces = true) :
    other.on (change.on entries) = other.on entries := by
  have both := replaces_of_key same
  match other, change with
  | examples which value, examples which' value' =>
      have keys : which.key = which'.key := same
      rw [on_examples, on_examples, on_examples, keys, Json.put_put]
  | examples _ _, description _ => cases both
  | description _, _ => cases replaces

/-- The change was done: doing it once more changes nothing. -/
def IsDone (change : Change) (entries : List (String × Json)) : Prop := change.on entries = entries

/-- A description was added when there is one that counts. -/
theorem isDone_description {text : Json} (counts : text.truthy = true) :
    (description text).IsDone entries ↔
      ((Json.find? "description" entries).getD .null).truthy = true := by
  rw [IsDone, on_description]
  constructor
  · intro done
    by_contra missing
    rw [if_neg missing] at done
    rw [← done, Json.find?_put] at missing
    exact missing counts
  · exact fun present => if_pos present

theorem isDone_on (counts : change.Counts) : change.IsDone (change.on entries) := by
  match change with
  | examples which value => exact Json.put_put
  | description text =>
      rw [isDone_description counts, on_description]
      split
      · rename_i present
        exact present
      · rw [Json.find?_put]
        exact counts

/-- A description that was added stays, whatever description is offered then. -/
theorem isDone_of_not_replaces (done : change.IsDone entries) (counts : change.Counts)
    (other_counts : other.Counts) (same : other.key = change.key)
    (keeps : other.replaces = false) : other.IsDone entries := by
  have both := replaces_of_key same
  match other, change with
  | description text', description text =>
      exact (isDone_description other_counts).2 ((isDone_description counts).1 done)
  | examples _ _, _ => cases keeps
  | description _, examples _ _ => cases both

theorem find?_of_isDone (done : change.IsDone entries) (counts : change.Counts) :
    (Json.find? change.key entries).isSome = true := by
  match change with
  | examples which value =>
      rw [IsDone, on_examples] at done
      rw [← done, key, Json.find?_put]
      rfl
  | description text =>
      have present := (isDone_description counts).1 done
      rw [key]
      cases found : Json.find? "description" entries with
      | some value => rfl
      | none =>
          rw [found] at present
          cases present

/-- Changes of different keys commute once the key of the first is there. -/
theorem on_comm (apart : other.key ≠ change.key)
    (held : (Json.find? change.key entries).isSome = true) :
    change.on (other.on entries) = other.on (change.on entries) := by
  match change, other with
  | examples which value, examples which' value' => exact Json.put_comm apart held
  | examples which value, description text =>
      have unread : Json.find? "description" (Json.put which.key value entries) =
          Json.find? "description" entries := Json.find?_put_of_ne apart
      simp only [on_examples, on_description, unread]
      split
      · rfl
      · exact Json.put_comm apart held
  | description text, examples which value =>
      have unread : Json.find? "description" (Json.put which.key value entries) =
          Json.find? "description" entries := Json.find?_put_of_ne apart.symm
      simp only [on_examples, on_description, unread]
      split
      · rfl
      · exact Json.put_comm apart held
  | description text, description text' => exact absurd rfl apart

theorem on_modify {position : Nat} {f : Json → Json} {entry : String × Json}
    (here : entries[position]? = some entry) (apart : entry.1 ≠ change.key) :
    change.on (entries.modify position fun entry => (entry.1, f entry.2)) =
      (change.on entries).modify position fun entry => (entry.1, f entry.2) := by
  match change with
  | examples which value => exact Json.put_modify here apart
  | description text =>
      have unread : Json.find? "description" (entries.modify position fun entry =>
          (entry.1, f entry.2)) = Json.find? "description" entries := Json.find?_modify here apart
      rw [on_description, on_description, unread]
      split
      · rfl
      · exact Json.put_modify here apart

end Change

/-! ## Changes at places of a contract -/

/-- A change of the object at a path. -/
structure Effect where
  path : List Nat
  change : Change

namespace Effect

/-- The document after the effect. -/
def on (effect : Effect) (document : Json) : Json :=
  Json.amendAt effect.change.on effect.path document

/-- The place in an object that is changed. -/
def slot (effect : Effect) : List Nat × String := (effect.path, effect.change.key)

/-- The effect changes an example or a description of an object in the document. -/
def Suits (document : Json) (effect : Effect) : Prop :=
  ∃ part entries, document.reach .contract effect.path = some (part, .object entries) ∧
    part.writes effect.change.key = true

/-- The effect was done: doing it once more changes nothing. -/
def IsDone (effect : Effect) (document : Json) : Prop := effect.on document = document

variable {effect other : Effect} {document : Json}

theorem Suits.at? (fits : effect.Suits document) :
    ∃ entries, document.at? effect.path = some (.object entries) := by
  obtain ⟨part, entries, reached, -⟩ := fits
  exact ⟨entries, Json.at?_of_reach reached⟩

theorem on_of_at? {entries : List (String × Json)}
    (here : document.at? effect.path = some (.object entries)) :
    (effect.on document).at? effect.path = some (.object (effect.change.on entries)) :=
  Json.at?_amendAt here

theorem isDone_iff {entries : List (String × Json)}
    (here : document.at? effect.path = some (.object entries)) :
    effect.IsDone document ↔ effect.change.IsDone entries := by
  constructor
  · intro done
    have after := on_of_at? here
    rw [done, here] at after
    injection after with same
    injection same with same
    exact same.symm
  · intro done
    refine Json.amendAt_self fun found held => ?_
    rw [here] at held
    cases held
    exact done

theorem isDone_on (fits : effect.Suits document) (counts : effect.change.Counts) :
    effect.IsDone (effect.on document) := by
  obtain ⟨entries, here⟩ := fits.at?
  exact (isDone_iff (on_of_at? here)).2 (Change.isDone_on counts)

/-- Of two effects at one slot the later counts. -/
theorem on_on_of_replaces (same : other.slot = effect.slot)
    (replaces : other.change.replaces = true) :
    other.on (effect.on document) = other.on document := by
  obtain ⟨paths, keys⟩ := Prod.mk.inj same
  unfold on
  rw [paths, Json.amendAt_amendAt]
  exact Json.amendAt_congr fun entries _ => Change.on_on_of_replaces keys replaces

end Effect

end Contract

/-! ## Effects at different slots -/

namespace Json

variable {change other : Contract.Change} {path path' : List Nat}
  {part q q' : Part} {entries entries' : List (String × Json)}

theorem getElem?_of_reach {position : Nat} {found : Part × Json}
    (reached : (object entries).reach part (position :: path) = some found) :
    ∃ name value, entries[position]? = some (name, value) ∧ part.writes name = false ∧
      value.reach (part.child name) path = some found := by
  obtain ⟨⟨name, value⟩, here, further⟩ := Option.bind_eq_some_iff.1 reached
  split at further
  · cases further
  · rename_i unwritten
    exact ⟨name, value, here, Bool.not_eq_true _ ▸ unwritten, further⟩

/-- Changes of different objects commute: a path leads through no key that is changed. -/
theorem amendAt_comm {value : Json}
    (reached : value.reach part path = some (q, .object entries))
    (writes : q.writes change.key = true)
    (reached' : value.reach part path' = some (q', .object entries'))
    (writes' : q'.writes other.key = true) (apart : path ≠ path') :
    amendAt change.on path (amendAt other.on path' value) =
      amendAt other.on path' (amendAt change.on path value) := by
  induction path generalizing part path' value with
  | nil =>
      cases path' with
      | nil => exact absurd rfl apart
      | cons position path' =>
          cases reached
          -- the other path leads through a key that is not written, so it is not the one
          -- that is changed here
          obtain ⟨name, value, here, unwritten, -⟩ := getElem?_of_reach reached'
          have different : name ≠ change.key := by
            rintro rfl
            cases unwritten.symm.trans writes
          exact congrArg Json.object (Contract.Change.on_modify here different)
  | cons position path ih =>
      cases path' with
      | nil =>
          cases reached'
          obtain ⟨name, value, here, unwritten, -⟩ := getElem?_of_reach reached
          have different : name ≠ other.key := by
            rintro rfl
            cases unwritten.symm.trans writes'
          exact congrArg Json.object (Contract.Change.on_modify here different).symm
      | cons position' path' =>
          -- the paths part here or further down
          by_cases same : position = position'
          · subst same
            have further : path ≠ path' := fun equal => apart (by rw [equal])
            cases value with
            | list items =>
                obtain ⟨item, here, inside⟩ := Option.bind_eq_some_iff.1 reached
                obtain ⟨item', here', inside'⟩ := Option.bind_eq_some_iff.1 reached'
                obtain rfl := Option.some.inj (here.symm.trans here')
                simp only [amendAt_cons_list, List.modify_modify_eq]
                refine congrArg Json.list (modify_congr fun x found => ?_)
                obtain rfl := Option.some.inj (here.symm.trans found)
                exact ih inside inside' further
            | object held =>
                obtain ⟨name, value, here, -, inside⟩ := getElem?_of_reach reached
                obtain ⟨name', value', here', -, inside'⟩ := getElem?_of_reach reached'
                obtain ⟨rfl, rfl⟩ := Prod.mk.inj (Option.some.inj (here.symm.trans here'))
                simp only [amendAt_cons_object, List.modify_modify_eq]
                refine congrArg Json.object (modify_congr fun x found => ?_)
                obtain rfl := Option.some.inj (here.symm.trans found)
                exact congrArg (Prod.mk name) (ih inside inside' further)
            | _ => cases reached
          · cases value with
            | list items =>
                simp only [amendAt_cons_list]
                rw [List.modify_modify_ne _ _ _ (Ne.symm same)]
            | object held =>
                simp only [amendAt_cons_object]
                rw [List.modify_modify_ne _ _ _ (Ne.symm same)]
            | _ => rfl

end Json

namespace Contract

namespace Effect

variable {effect other : Effect} {document : Json}

/-- Effects at different slots commute once the slot of the first is there. -/
theorem on_comm (fits : effect.Suits document) (fits' : other.Suits document)
    (apart : other.slot ≠ effect.slot)
    (held : ∀ entries, document.at? effect.path = some (.object entries) →
      (Json.find? effect.change.key entries).isSome = true) :
    effect.on (other.on document) = other.on (effect.on document) := by
  by_cases same : effect.path = other.path
  · have keys : other.change.key ≠ effect.change.key := fun equal =>
      apart (Prod.ext same.symm equal)
    unfold on
    rw [← same, Json.amendAt_amendAt, Json.amendAt_amendAt]
    exact Json.amendAt_congr fun entries here => Change.on_comm keys (held entries here)
  · obtain ⟨part, entries, reached, writes⟩ := fits
    obtain ⟨part', entries', reached', writes'⟩ := fits'
    exact Json.amendAt_comm reached writes reached' writes' same

/-- The slot of the effect is there: some effect at it was done. -/
def Held (effect : Effect) (document : Json) : Prop :=
  ∃ done : Effect, done.slot = effect.slot ∧ done.change.Counts ∧ done.IsDone document

theorem Held.find? (held : effect.Held document) (entries : List (String × Json))
    (here : document.at? effect.path = some (.object entries)) :
    (Json.find? effect.change.key entries).isSome = true := by
  obtain ⟨done, same, counts, settled⟩ := held
  obtain ⟨paths, keys⟩ := Prod.mk.inj same
  rw [← keys]
  exact Change.find?_of_isDone ((isDone_iff (paths ▸ here)).1 settled) counts

/-- What was done stays done as long as its slot is not set again. -/
theorem IsDone.on (done : effect.IsDone document) (counts : effect.change.Counts)
    (other_counts : other.change.Counts) (fits : effect.Suits document)
    (fits' : other.Suits document)
    (kept : other.slot = effect.slot → other.change.replaces = false) :
    effect.IsDone (other.on document) := by
  by_cases same : other.slot = effect.slot
  · obtain ⟨paths, keys⟩ := Prod.mk.inj same
    obtain ⟨entries, here⟩ := fits.at?
    have settled : other.IsDone document := (isDone_iff (paths ▸ here)).2
      (Change.isDone_of_not_replaces ((isDone_iff here).1 done) counts other_counts keys (kept same))
    rw [show other.on document = document from settled]
    exact done
  · have held : effect.Held document := ⟨effect, rfl, counts, done⟩
    exact (on_comm fits fits' same held.find?).trans (congrArg other.on done)

/-- A slot that is there stays there. -/
theorem Held.on (held : effect.Held document) (fits : effect.Suits document)
    (fits' : other.Suits document) (other_counts : other.change.Counts) :
    effect.Held (other.on document) := by
  obtain ⟨done, same, counts, settled⟩ := held
  by_cases again : other.slot = done.slot ∧ other.change.replaces = true
  · exact ⟨other, again.1.trans same, other_counts, isDone_on fits' other_counts⟩
  · obtain ⟨paths, keys⟩ := Prod.mk.inj same
    have done_fits : done.Suits document := by
      obtain ⟨part, entries, reached, writes⟩ := fits
      exact ⟨part, entries, paths ▸ reached, keys ▸ writes⟩
    exact ⟨done, same, counts, settled.on counts other_counts done_fits fits' fun equal =>
      Bool.not_eq_true _ ▸ fun replaces => again ⟨equal, replaces⟩⟩

end Effect

end Contract

end TypedContract
