/-
# TypedContract.Proofs.Translation.Growth -- what a translation leaves as it was

A translation only adds: the entries of the registry stay and new ones come after
them, the names in progress are the same at the end as at the start and are not
registered in between, and so are the components being rebuilt (`Derives.grows`).  The
one induction is that of `Derives.relates`: it asks of a relation of sessions that all
single steps of a translation keep to it (`Accumulates`).
-/
import TypedContract.Proofs.Registry.Entries
import TypedContract.Proofs.Translation.Derivation

namespace TypedContract

set_option autoImplicit false

/-- The diagnostics about references that lead nowhere. -/
def Session.danglingReports (s : Session) : List Diagnostic :=
  s.diagnostics.filter fun diagnostic => diagnostic.code = .danglingReference

/-- The second session continues the first. -/
structure Session.Grows (s t : Session) : Prop where
  entries : s.registry.entries <+: t.registry.entries
  building : t.registry.building = s.registry.building
  reserved : t.registry.reserved = s.registry.reserved
  rebuilding : t.rebuilding = s.rebuilding
  hoisted : s.hoisted <:+ t.hoisted
  /-- A name in progress is not registered meanwhile. -/
  waiting : ∀ name ∈ s.registry.building, s.registry.get? name = none →
    t.registry.get? name = none
  /-- No reference is found dangling before the end of a run. -/
  dangling : t.danglingReports = s.danglingReports

namespace Session.Grows

variable {s t u : Session} {name : String} {type : Ty}

theorem refl (s : Session) : s.Grows s :=
  ⟨List.prefix_rfl, rfl, rfl, rfl, List.suffix_rfl, fun _ _ h => h, rfl⟩

theorem trans (first : s.Grows t) (second : t.Grows u) : s.Grows u where
  entries := first.entries.trans second.entries
  building := second.building.trans first.building
  reserved := second.reserved.trans first.reserved
  rebuilding := second.rebuilding.trans first.rebuilding
  hoisted := first.hoisted.trans second.hoisted
  waiting := fun name member absent =>
    second.waiting name (first.building ▸ member) (first.waiting name member absent)
  dangling := second.dangling.trans first.dangling

theorem get? (grows : s.Grows t) (found : s.registry.get? name = some type) :
    t.registry.get? name = some type :=
  Registry.get?_of_prefix grows.entries found

theorem contains (grows : s.Grows t) (held : s.registry.contains name = true) :
    t.registry.contains name = true := by
  rw [Registry.contains_iff] at held ⊢
  rw [grows.building]
  exact held.imp_left fun ⟨type, found⟩ => ⟨type, grows.get? found⟩

/-- Any diagnostic but that of a dangling reference may be added. -/
theorem reported (s : Session) (code : Diagnostic.Code) (args : List String)
    (other : code ≠ .danglingReference) : s.Grows (Translation.reported s code args) := by
  refine ⟨List.prefix_rfl, rfl, rfl, rfl, List.suffix_rfl, fun _ _ h => h, ?_⟩
  simp [Session.danglingReports, Translation.reported, List.filter_append, other]

theorem of_contains_false (fresh : s.registry.contains name = false) :
    s.registry.get? name = none ∧ name ∉ s.registry.building := by
  simp only [Registry.contains, Registry.inProgress, Bool.or_eq_false_iff] at fresh
  exact ⟨by simpa using fresh.1, by simpa using fresh.2⟩

/-- The type that a registration ends with comes last. -/
theorem entries_finished (fresh : s.registry.contains name = false)
    (inside : (Run.begun s name).Grows t) :
    (Run.finished t name type).registry.entries = t.registry.entries ++ [(name, type)] :=
  Registry.entries_leave
    (inside.waiting name List.mem_cons_self (of_contains_false fresh).1)

theorem get?_finished (fresh : s.registry.contains name = false)
    (inside : (Run.begun s name).Grows t) :
    (Run.finished t name type).registry.get? name = some type := by
  unfold Registry.get?
  rw [entries_finished fresh inside]
  exact Registry.get?_append_self
    (inside.waiting name List.mem_cons_self (of_contains_false fresh).1)

/-- A registration that ends loses no name: its own is registered now. -/
theorem contains_finished {other : String} (fresh : s.registry.contains name = false)
    (inside : (Run.begun s name).Grows t) (held : t.registry.contains other = true) :
    (Run.finished t name type).registry.contains other = true := by
  have grown : t.registry.entries <+: (Run.finished t name type).registry.entries :=
    entries_finished fresh inside ▸ List.prefix_append _ _
  rw [Registry.contains_iff] at held ⊢
  rcases held with ⟨old, found⟩ | building
  · exact .inl ⟨old, Registry.get?_of_prefix grown found⟩
  · by_cases same : other = name
    · subst same
      exact .inl ⟨type, get?_finished fresh inside⟩
    · refine .inr ?_
      change other ∈ (t.registry.leave name (some type)).building
      rw [Registry.building_leave]
      exact List.mem_filter.2 ⟨building, by simpa using same⟩

/-- What is found after a registration was found before or is what it registers. -/
theorem of_get?_finished {other : String} {found : Ty} (fresh : s.registry.contains name = false)
    (inside : (Run.begun s name).Grows t)
    (registered : (Run.finished t name type).registry.get? other = some found) :
    t.registry.get? other = some found ∨ other = name ∧ found = type := by
  unfold Registry.get? at registered ⊢
  rw [entries_finished fresh inside, List.lookup_append] at registered
  cases earlier : t.registry.entries.lookup other with
  | some old =>
      rw [earlier] at registered
      exact .inl registered
  | none =>
      rw [earlier, Option.none_or, List.lookup_cons] at registered
      split at registered
      · rename_i same
        exact .inr ⟨eq_of_beq same, (Option.some.inj registered).symm⟩
      · cases registered

/-- A registration that begins with a fresh name and ends with its type grows. -/
theorem registration (fresh : s.registry.contains name = false)
    (inside : (Run.begun s name).Grows t) : s.Grows (Run.finished t name type) := by
  obtain ⟨absent, idle⟩ := of_contains_false fresh
  have added : (Run.finished t name type).registry.entries =
      t.registry.entries ++ [(name, type)] := entries_finished fresh inside
  refine ⟨?_, ?_, inside.reserved, inside.rebuilding, inside.hoisted, ?_, inside.dangling⟩
  · rw [added]
    exact inside.entries.trans (List.prefix_append _ _)
  · change (t.registry.leave name (some type)).building = _
    rw [Registry.building_leave, inside.building]
    exact Registry.filter_cons_ne idle
  · intro other member unregistered
    have before := inside.waiting other (List.mem_cons_of_mem _ member) unregistered
    have apart : other ≠ name := fun same => idle (same ▸ member)
    unfold Registry.get? at before ⊢
    rw [added, List.lookup_append, before, Option.none_or, List.lookup_cons,
      beq_false_of_ne apart]
    rfl

/-- A place may be noted for a record that is to be hoisted. -/
theorem hoisting (s : Session) (name : String) (place : Option Place) :
    s.Grows (Translation.hoisting s name place) :=
  ⟨List.prefix_rfl, rfl, rfl, rfl, List.suffix_cons _ _, fun _ _ h => h, rfl⟩

/-- A component is only meanwhile among those being built anew. -/
theorem rebuilt (idle : s.rebuilding.contains name = false)
    (inside : Grows { s with rebuilding := name :: s.rebuilding } t) :
    s.Grows { t with rebuilding := t.rebuilding.filter (· != name) } := by
  refine ⟨inside.entries, inside.building, inside.reserved, ?_, inside.hoisted, inside.waiting,
    inside.dangling⟩
  have apart : name ∉ s.rebuilding := by simpa using idle
  change t.rebuilding.filter (· != name) = s.rebuilding
  rw [show t.rebuilding = name :: s.rebuilding from inside.rebuilding]
  exact Registry.filter_cons_ne apart

end Session.Grows

namespace Translation

variable {schemas : Node}

/-- The session a part of a translation starts in. -/
def Judgement.start : Judgement → Session
  | .schema _ _ s _ _ | .bare _ _ s _ _ | .each _ s _ _ | .fields _ _ _ s _ _
  | .component _ s _ _ | .named _ _ s _ _ | .source _ s _ _ | .sources _ s _ _
  | .combined _ _ _ s _ _ => s

/-- The session a part of a translation ends in. -/
def Judgement.finish : Judgement → Session
  | .schema _ _ _ _ t | .bare _ _ _ _ t | .each _ _ _ t | .fields _ _ _ _ _ t
  | .component _ _ _ t | .named _ _ _ _ t | .source _ _ _ t | .sources _ _ _ t
  | .combined _ _ _ _ _ t => t

/-- A record is hoisted under a name that is in no use and kept for nothing else. -/
theorem hoisting_unused {s : Session} {context name : String}
    (unique : s.registry.uniqueName context = name) (place : Option Place) :
    (hoisting s name place).registry.contains name = false ∧ name ∉ s.registry.reserved :=
  unique ▸ Registry.uniqueName_spec

/-- The relation of sessions is kept by all that a translation does from the first one to the
second. -/
structure Accumulates (related : Session → Session → Prop) : Prop where
  refl : ∀ s, related s s
  trans : ∀ {s t u : Session}, related s t → related t u → related s u
  reported : ∀ {s : Session} {code : Diagnostic.Code} {args : List String},
    code ∈ [.unresolvedReference, .unsupportedSchema, .unsupportedCombinator] →
      related s (reported s code args)
  hoisting : ∀ {s : Session} {name : String} {place : Option Place},
    related s (hoisting s name place)
  registration : ∀ {s t : Session} {name : String} {type : Ty},
    s.registry.contains name = false → related (Run.begun s name) t →
      related s (Run.finished t name type)
  rebuilt : ∀ {s t : Session} {name : String}, s.rebuilding.contains name = false →
    related { s with rebuilding := name :: s.rebuilding } t →
      related s { t with rebuilding := t.rebuilding.filter (· != name) }

/-- A translation relates the session that it starts in to the one that it ends in. -/
theorem Derives.relates {related : Session → Session → Prop} {judgement : Judgement}
    (derived : Derives schemas judgement) (accumulates : Accumulates related) :
    related judgement.start judgement.finish := by
  induction derived with
  | nilable _ ih => exact ih
  | scalar | untyped | openMap | hoistedBefore | any | eachNil | fieldsNil | known | settled
  | sourcesNil => exact accumulates.refl _
  | unresolved | unsupported => exact accumulates.reported (by simp)
  | reference _ _ _ _ ih => exact ih
  | array _ _ _ ih => exact ih
  | map _ _ _ _ ih => exact ih
  | record _ _ _ _ ih => exact ih
  | @hoisted schema context name s t fields text kind properties contextual anew unique inside
      described ih =>
      have fresh := (hoisting_unused unique schema.facts.node.place).1
      exact accumulates.trans accumulates.hoisting (accumulates.registration fresh ih)
  | union _ _ ih => exact ih
  | allOf _ _ _ ihInside ihMerge => exact accumulates.trans ihInside ihMerge
  | eachCons _ _ ihHead ihTail => exact accumulates.trans ihHead ihTail
  | fieldsCons _ _ _ ihHead ihTail => exact accumulates.trans ihHead ihTail
  | built fresh _ _ ih => exact accumulates.registration fresh ih
  | namedRecord _ _ _ _ ih => exact ih
  | namedMerge _ _ _ ihInside ihMerge => exact accumulates.trans ihInside ihMerge
  | namedUnion _ _ ih => exact ih
  | namedOther _ _ _ _ ih => exact ih
  | rebuilt _ rebuilds _ _ ih => exact accumulates.rebuilt rebuilds.2.2 ih
  | sourcesCons _ _ ihHead ihTail => exact accumulates.trans ihHead ihTail
  | merged _ _ _ ih => exact ih
  | wrapped _ _ ih => exact ih
  | refused _ _ _ ih => exact accumulates.trans ih (accumulates.reported (by simp))

theorem accumulates_grows : Accumulates Session.Grows where
  refl := .refl
  trans := .trans
  reported own := .reported _ _ _ (by rintro rfl; simp at own)
  hoisting := .hoisting _ _ _
  registration := .registration
  rebuilt := .rebuilt

/-- A translation only adds. -/
theorem Derives.grows {judgement : Judgement} (derived : Derives schemas judgement) :
    judgement.start.Grows judgement.finish :=
  derived.relates accumulates_grows

/-- A component that was asked for is registered or in progress. -/
theorem Derives.contains {name : String} {s t : Session} {type : Ty}
    (derived : Derives schemas (.component name s type t)) :
    t.registry.contains name = true := by
  cases derived with
  | known found =>
      rw [Registry.contains_iff]
      rcases Registry.enter_eq_inl_iff.1 found with found | ⟨-, building, -⟩
      · exact .inl ⟨type, found⟩
      · exact .inr building
  | built fresh parsed inside =>
      exact Registry.contains_iff.2
        (.inl ⟨type, Session.Grows.get?_finished fresh inside.grows⟩)

/-- A component that was asked for while nothing was in progress is registered with the
type that came back. -/
theorem Derives.registered {name : String} {s t : Session} {type : Ty}
    (derived : Derives schemas (.component name s type t)) (idle : s.registry.building = []) :
    t.registry.get? name = some type := by
  cases derived with
  | known found =>
      rcases Registry.enter_eq_inl_iff.1 found with found | ⟨-, building, -⟩
      · exact found
      · rw [idle] at building
        cases building
  | built fresh parsed inside => exact Session.Grows.get?_finished fresh inside.grows

end Translation

end TypedContract
