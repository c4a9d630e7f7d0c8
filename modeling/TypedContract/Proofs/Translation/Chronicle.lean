/-
# TypedContract.Proofs.Translation.Chronicle -- where registered types come from

Whatever stands in the registry was put there by a derivation.  A chronicle tells
which: the type of a component comes from the schema of the component under its name,
and the record of a hoisted name from the properties of the inline schema at the place
that the name was given to.  A name is given to one place only, and never to a
component.  A translation keeps the chronicle (`Derives.chronicle`).
-/
import TypedContract.Proofs.Schema.Parsing
import TypedContract.Proofs.Translation.Recordlike

namespace TypedContract

set_option autoImplicit false

/-- What is registered, in progress or hoisted in the first session has not been lost in
the second. -/
structure Session.Before (s t : Session) : Prop where
  entries : s.registry.entries <+: t.registry.entries
  hoisted : s.hoisted <:+ t.hoisted
  contains : ∀ {name}, s.registry.contains name = true → t.registry.contains name = true
  reserved : t.registry.reserved = s.registry.reserved

namespace Session.Before

variable {s t u : Session}

theorem refl (s : Session) : s.Before s := ⟨List.prefix_rfl, List.suffix_rfl, id, rfl⟩

theorem trans (first : s.Before t) (second : t.Before u) : s.Before u :=
  ⟨first.entries.trans second.entries, first.hoisted.trans second.hoisted,
    second.contains ∘ first.contains, second.reserved.trans first.reserved⟩

/-- Beside the registry and the places, nothing is looked at. -/
theorem noted (registry : t.registry = s.registry) (hoisted : t.hoisted = s.hoisted) :
    s.Before t := by
  refine ⟨?_, ?_, ?_, ?_⟩ <;> simp [registry, hoisted]

theorem of_noted (before : t.Before u) (registry : t.registry = s.registry)
    (hoisted : t.hoisted = s.hoisted) : s.Before u :=
  (noted registry hoisted).trans before

theorem begun {name : String} : s.Before (Run.begun s name) :=
  ⟨List.prefix_rfl, List.suffix_rfl, Registry.contains_start, rfl⟩

theorem hoisting {name : String} {place : Option Place} :
    s.Before (Run.begun (Translation.hoisting s name place) name) :=
  ⟨List.prefix_rfl, List.suffix_cons _ _, Registry.contains_start, rfl⟩

theorem get? (before : s.Before t) {name : String} {type : Ty}
    (found : s.registry.get? name = some type) : t.registry.get? name = some type :=
  Registry.get?_of_prefix before.entries found

end Session.Before

theorem Session.Grows.before {s t : Session} (grows : s.Grows t) : s.Before t :=
  ⟨grows.entries, grows.hoisted, grows.contains, grows.reserved⟩

/-- A registration adds its type to what is registered. -/
theorem Session.Grows.before_finished {s t : Session} {name : String} {type : Ty}
    (fresh : s.registry.contains name = false) (inside : (Run.begun s name).Grows t) :
    t.Before (Run.finished t name type) := by
  refine ⟨?_, List.suffix_rfl, Session.Grows.contains_finished fresh inside, rfl⟩
  rw [Session.Grows.entries_finished fresh inside]
  exact List.prefix_append _ _

namespace Translation

variable {schemas : Node} {number : Nat} {contract : Json}

/-- The type is that of the schema of a component under its name. -/
def FromComponent (schemas : Node) (t : Session) (name : String) (type : Ty) : Prop :=
  ∃ (schema : Schema) (s u : Session), componentSchema schemas name = .ok schema ∧
    Derives schemas (.named name schema s type u) ∧ u.Before t

/-- The type is the record of the inline schema at a place. -/
def FromPlace (schemas : Node) (number : Nat) (contract : Json) (t : Session) (name : String)
    (place : Place) (type : Ty) : Prop :=
  ∃ (schema : Schema) (s u : Session) (fields : List (Field Ty)) (text : String),
    schema.IsPartOf number contract ∧ schema.facts.node.place = some place ∧
    Derives schemas (.fields (some name) schema.facts.required schema.properties s fields u) ∧
    type = .record (some name) fields text ∧ u.Before t

/-- Where the registered types of a session come from. -/
structure Chronicle (schemas : Node) (number : Nat) (contract : Json) (t : Session) : Prop where
  /-- What is registered is a component or was given to a place. -/
  known : ∀ {name type}, t.registry.get? name = some type →
    schemas.value.holds name = .ok true ∨ ∃ place, (name, place) ∈ t.hoisted
  component : ∀ {name type}, t.registry.get? name = some type →
    schemas.value.holds name = .ok true → FromComponent schemas t name type
  hoisted : ∀ {name place type}, (name, some place) ∈ t.hoisted →
    t.registry.get? name = some type → FromPlace schemas number contract t name place type
  /-- A name is given to one place. -/
  once : ∀ {name place place'}, (name, place) ∈ t.hoisted → (name, place') ∈ t.hoisted →
    place = place'
  /-- A name that is given to a place is registered or in progress. -/
  held : ∀ {name place}, (name, place) ∈ t.hoisted → t.registry.contains name = true
  /-- No name of a component is given to a place. -/
  apart : ∀ {name place}, (name, place) ∈ t.hoisted → schemas.value.holds name ≠ .ok true

theorem FromComponent.later {t t' : Session} {name : String} {type : Ty}
    (source : FromComponent schemas t name type) (before : t.Before t') :
    FromComponent schemas t' name type := by
  obtain ⟨schema, s, u, parsed, derived, earlier⟩ := source
  exact ⟨schema, s, u, parsed, derived, earlier.trans before⟩

theorem FromPlace.later {t t' : Session} {name : String} {place : Place} {type : Ty}
    (source : FromPlace schemas number contract t name place type) (before : t.Before t') :
    FromPlace schemas number contract t' name place type := by
  obtain ⟨schema, s, u, fields, text, stands, placed, derived, same, earlier⟩ := source
  exact ⟨schema, s, u, fields, text, stands, placed, derived, same, earlier.trans before⟩

namespace Chronicle

variable {s t : Session} {name : String} {type : Ty}

/-- A chronicle looks at the registered types, the held names and the given places. -/
theorem of_same (chronicle : Chronicle schemas number contract s)
    (entries : t.registry.entries = s.registry.entries)
    (building : ∀ name, name ∈ s.registry.building → name ∈ t.registry.building)
    (hoisted : t.hoisted = s.hoisted) (reserved : t.registry.reserved = s.registry.reserved) :
    Chronicle schemas number contract t := by
  have same : ∀ name, t.registry.get? name = s.registry.get? name := fun name => by
    unfold Registry.get?
    rw [entries]
  have contains : ∀ {name}, s.registry.contains name = true → t.registry.contains name = true := by
    intro name held
    rw [Registry.contains_iff] at held ⊢
    rw [same]
    exact held.imp_right (building _)
  have before : s.Before t :=
    ⟨entries ▸ List.prefix_rfl, hoisted ▸ List.suffix_rfl, contains, reserved⟩
  refine ⟨fun found => ?_, fun found held => ?_, fun member found => ?_, fun first second => ?_,
    fun member => ?_, fun member => ?_⟩
  · rw [same] at found
    rw [hoisted]
    exact chronicle.known found
  · rw [same] at found
    exact (chronicle.component found held).later before
  · rw [same] at found
    rw [hoisted] at member
    exact (chronicle.hoisted member found).later before
  · rw [hoisted] at first second
    exact chronicle.once first second
  · rw [hoisted] at member
    exact contains (chronicle.held member)
  · rw [hoisted] at member
    exact chronicle.apart member

theorem begun (chronicle : Chronicle schemas number contract s) :
    Chronicle schemas number contract (Run.begun s name) :=
  chronicle.of_same rfl (fun _ => List.mem_cons_of_mem _) rfl rfl

/-- A name that is given to a place for the first time is only about to be built. -/
theorem hoisting (chronicle : Chronicle schemas number contract s) {place : Option Place}
    (fresh : s.registry.contains name = false) (free : schemas.value.holds name ≠ .ok true) :
    Chronicle schemas number contract (Run.begun (hoisting s name place) name) := by
  have unregistered : s.registry.get? name = none := (Session.Grows.of_contains_false fresh).1
  have before : s.Before (Run.begun (Translation.hoisting s name place) name) := .hoisting
  -- a name that a place was given is registered or in progress, and this one is neither
  have new : ∀ {other}, (name, other) ∈ s.hoisted → False := fun member => by
    rw [chronicle.held member] at fresh
    cases fresh
  refine ⟨fun found => ?_, fun found held => (chronicle.component found held).later before,
    fun {other place' type} member found => ?_, fun first second => ?_,
    fun member => ?_, fun member => ?_⟩
  · exact (chronicle.known found).imp_right fun ⟨place, member⟩ =>
      ⟨place, List.mem_cons_of_mem _ member⟩
  · rcases List.mem_cons.1 member with same | member
    · cases same
      cases unregistered.symm.trans found
    · exact (chronicle.hoisted member found).later before
  · rcases List.mem_cons.1 first with same | first <;>
      rcases List.mem_cons.1 second with same' | second
    · cases same
      cases same'
      rfl
    · cases same
      exact (new second).elim
    · cases same'
      exact (new first).elim
    · exact chronicle.once first second
  · rcases List.mem_cons.1 member with same | member
    · cases same
      exact Registry.contains_iff.2 (.inr List.mem_cons_self)
    · exact Registry.contains_start (chronicle.held member)
  · rcases List.mem_cons.1 member with same | member
    · cases same
      exact free
    · exact chronicle.apart member

/-- A registration whose type has a source. -/
theorem finished (chronicle : Chronicle schemas number contract t)
    (fresh : s.registry.contains name = false) (inside : (Run.begun s name).Grows t)
    (known : schemas.value.holds name = .ok true ∨ ∃ place, (name, place) ∈ t.hoisted)
    (component : schemas.value.holds name = .ok true → FromComponent schemas t name type)
    (hoisted : ∀ place, (name, some place) ∈ t.hoisted →
      FromPlace schemas number contract t name place type) :
    Chronicle schemas number contract (Run.finished t name type) := by
  have before : t.Before (Run.finished t name type) := Session.Grows.before_finished fresh inside
  refine ⟨fun found => ?_, fun found held => ?_, fun member found => ?_, chronicle.once,
    fun {other place} member => ?_, chronicle.apart⟩
  · rcases Session.Grows.of_get?_finished fresh inside found with earlier | ⟨rfl, rfl⟩
    · exact chronicle.known earlier
    · exact known
  · rcases Session.Grows.of_get?_finished fresh inside found with earlier | ⟨rfl, rfl⟩
    · exact (chronicle.component earlier held).later before
    · exact (component held).later before
  · rcases Session.Grows.of_get?_finished fresh inside found with earlier | ⟨rfl, rfl⟩
    · exact (chronicle.hoisted member earlier).later before
    · exact (hoisted _ member).later before
  · exact before.contains (chronicle.held member)

end Chronicle

/-! ## Derivations keep the chronicle -/

/-- The schemas of a part of a translation stand in the document. -/
def Judgement.Stand (number : Nat) (contract : Json) : Judgement → Prop
  | .schema subject _ _ _ _ | .bare subject _ _ _ _ | .named _ subject _ _ _ =>
      subject.IsPartOf number contract
  | .each parts _ _ _ => ∀ part ∈ parts, part.1.IsPartOf number contract
  | .fields _ _ properties _ _ _ =>
      ∀ property ∈ properties, property.2.IsPartOf number contract
  | _ => True

theorem isPartOf_component {name : String} {schema : Schema}
    (document : schemas.Stands number contract)
    (parsed : componentSchema schemas name = .ok schema) : schema.IsPartOf number contract := by
  obtain ⟨node, found, parsed⟩ := except_bind_eq_ok.1 parsed
  exact ⟨node, document.required found, .of_parse parsed⟩

theorem holds_of_componentSchema {name : String} {schema : Schema}
    (parsed : componentSchema schemas name = .ok schema) : schemas.value.holds name = .ok true := by
  obtain ⟨node, found, -⟩ := except_bind_eq_ok.1 parsed
  unfold Node.required at found
  split at found
  · rename_i entries object
    split at found
    · rename_i inner here
      unfold Node.find? at here
      split at here
      · rename_i position value placed held
        rw [object, Json.holds, held]
        rfl
      · cases here
    · cases found
  · cases found

/-- A translation of schemas of the document keeps the chronicle. -/
theorem Derives.chronicle {judgement : Judgement} (derived : Derives schemas judgement)
    (document : schemas.Stands number contract) (stand : judgement.Stand number contract)
    (reserves : ReservesComponents schemas judgement.start.registry)
    (chronicle : Chronicle schemas number contract judgement.start) :
    Chronicle schemas number contract judgement.finish := by
  induction derived with simp only [Judgement.start, Judgement.finish, Judgement.Stand] at *
  | nilable inside ih => exact ih stand reserves chronicle
  | scalar | untyped | openMap | hoistedBefore | any | eachNil | fieldsNil | known | settled
  | sourcesNil => exact chronicle
  | unresolved | unsupported => exact chronicle.of_same rfl (fun _ => id) rfl rfl
  | reference kind leads registered atUse ih => exact ih trivial reserves chronicle
  | array kind items inside ih => exact ih (stand.item items) reserves chronicle
  | map kind properties additional inside ih => exact ih (stand.value additional) reserves chronicle
  | record kind properties inside described ih =>
      exact ih (fun property => stand.property) reserves chronicle
  | @hoisted schema context name s t fields text kind properties contextual anew unique inside
      described ih =>
      obtain ⟨fresh, free⟩ := hoisting_unused unique schema.facts.node.place
      -- the names of components are reserved, so the new name is none of them
      have unreserved : schemas.value.holds name ≠ .ok true := fun held => free (reserves name held)
      have after : Chronicle schemas number contract t :=
        ih (fun property => stand.property) reserves (chronicle.hoisting fresh unreserved)
      have here : (name, schema.facts.node.place) ∈ t.hoisted :=
        inside.grows.hoisted.subset List.mem_cons_self
      refine after.finished fresh inside.grows (.inr ⟨_, here⟩)
        (fun held => absurd held unreserved) fun place given => ?_
      exact ⟨schema, _, t, fields, text, stand, after.once here given, inside, rfl, .refl t⟩
  | union kind inside ih => exact ih (forall_unionParts fun _ => stand.member) reserves chronicle
  | allOf kind inside merge ihInside ihMerge =>
      exact ihMerge trivial (reserves.grows inside.grows)
        (ihInside (forall_typedParts fun _ => stand.member) reserves chronicle)
  | eachCons head tail ihHead ihTail =>
      have first := stand _ List.mem_cons_self
      have rest := fun part member => stand part (List.mem_cons_of_mem _ member)
      exact ihTail rest (reserves.grows head.grows) (ihHead first reserves chronicle)
  | fieldsCons head described tail ihHead ihTail =>
      have first := stand _ List.mem_cons_self
      have rest := fun property member => stand property (List.mem_cons_of_mem _ member)
      exact ihTail rest (reserves.grows head.grows) (ihHead first reserves chronicle)
  | @built name schema s t type fresh parsed inside ih =>
      have after : Chronicle schemas number contract t :=
        ih (isPartOf_component document parsed) reserves chronicle.begun
      -- no place was ever given the name of a component
      refine after.finished fresh inside.grows (.inl (holds_of_componentSchema parsed))
        (fun _ => ⟨schema, _, t, parsed, inside, .refl t⟩) fun place given => ?_
      exact absurd (holds_of_componentSchema parsed) (after.apart given)
  | namedRecord kind properties inside described ih =>
      exact ih (fun property => stand.property) reserves chronicle
  | namedMerge kind inside merge ihInside ihMerge =>
      exact ihMerge trivial (reserves.grows inside.grows)
        (ihInside (forall_typedParts fun _ => stand.member) reserves chronicle)
  | namedUnion kind inside ih => exact ih (forall_numberedParts fun _ => stand.member) reserves chronicle
  | namedOther record merge union inside ih => exact ih stand reserves chronicle
  | rebuilt meets rebuilds parsed inside ih =>
      have after := ih (isPartOf_component document parsed) reserves
        (chronicle.of_same rfl (fun _ => id) rfl rfl)
      exact after.of_same rfl (fun _ => id) rfl rfl
  | sourcesCons head tail ihHead ihTail =>
      exact ihTail trivial (reserves.grows head.grows) (ihHead trivial reserves chronicle)
  | merged inside records described ih => exact ih trivial reserves chronicle
  | wrapped inside mixed ih => exact ih trivial reserves chronicle
  | refused inside mixed several ih =>
      exact (ih trivial reserves chronicle).of_same rfl (fun _ => id) rfl rfl

end Translation

end TypedContract
