/-
# TypedContract.Proofs.Translation.Inversion -- reading a derivation backwards

The kind of a schema decides which rules can have given its type.  For each kind one
lemma lists them with all they know; lists of parts fall apart into the derivations of
their items.
-/
import TypedContract.Proofs.Steps
import TypedContract.Proofs.Translation.Chronicle

namespace TypedContract.Translation

set_option autoImplicit false

open Schema

variable {schemas : Node} {schema : Schema} {context name : String} {s t : Session} {type : Ty}

/-! ## The rules of each kind -/

theorem Derives.of_schema (derived : Derives schemas (.schema schema context s type t)) :
    ∃ inner, type = withNil schema.facts.nullable inner ∧
      Derives schemas (.bare schema context s inner t) := by
  cases derived with
  | nilable inside => exact ⟨_, rfl, inside⟩

theorem Derives.of_scalar (derived : Derives schemas (.bare schema context s type t))
    (kind : isScalarKind schema.facts.kind = true) :
    Translation.scalar schema.facts = .ok type ∧ s = t := by
  cases derived with
  | scalar _ typed => exact ⟨typed, rfl⟩
  | _ => simp_all [isScalarKind]

theorem Derives.of_reference (derived : Derives schemas (.bare schema context s type t))
    (kind : schema.facts.kind = .reference) :
    (target? schemas schema.facts = .ok none ∧ ∃ reason, type = .unknown reason) ∨
      ∃ name known nilable, target? schemas schema.facts = .ok (some name) ∧
        Derives schemas (.component name s known t) ∧
        admitsNilAtUse schemas name = .ok nilable ∧ type = referenceType nilable name := by
  cases derived with
  | unresolved _ nowhere => exact .inl ⟨nowhere, _, rfl⟩
  | reference _ leads registered atUse => exact .inr ⟨_, _, _, leads, registered, atUse, rfl⟩
  | _ => simp_all [isScalarKind]

theorem Derives.of_array (derived : Derives schemas (.bare schema context s type t))
    (kind : schema.facts.kind = .array) :
    (schema.items = none ∧ s = t ∧ type = .array (.unknown "untyped items")) ∨
      ∃ item element, schema.items = some item ∧ type = .array element ∧
        Derives schemas (.schema item (extend context "Item") s element t) := by
  cases derived with
  | untyped _ items => exact .inl ⟨items, rfl, rfl⟩
  | array _ items inside => exact .inr ⟨_, _, items, rfl, inside⟩
  | _ => simp_all [isScalarKind]

theorem Derives.of_map (derived : Derives schemas (.bare schema context s type t))
    (kind : schema.facts.kind = .object) (properties : schema.properties = []) :
    (schema.additional = none ∧ s = t ∧ type = .map (.unknown "any")) ∨
      ∃ value element, schema.additional = some value ∧ type = .map element ∧
        Derives schemas (.schema value (extend context "Value") s element t) := by
  cases derived with
  | openMap _ _ additional => exact .inl ⟨additional, rfl, rfl⟩
  | map _ _ additional inside => exact .inr ⟨_, _, additional, rfl, inside⟩
  | _ => simp_all [isScalarKind]

/-- An inline object is a record in place, or a name that its record was hoisted under
before or is now. -/
theorem Derives.of_object (derived : Derives schemas (.bare schema context s type t))
    (kind : schema.facts.kind = .object) (properties : schema.properties ≠ []) :
    (context = "" ∧ ∃ fields text, type = .record none fields text ∧
      strip schema.facts.description = .ok text ∧
      Derives schemas (.fields none schema.facts.required schema.properties s fields t)) ∨
    (context ≠ "" ∧ s = t ∧ type = .reference context ∧
      isHoisted s context schema.facts.node.place = true) ∨
    ∃ name fields text u, context ≠ "" ∧ type = .reference name ∧
      isHoisted s context schema.facts.node.place = false ∧
      s.registry.uniqueName context = name ∧ strip schema.facts.description = .ok text ∧
      Derives schemas (.fields (some name) schema.facts.required schema.properties
        (Run.begun (hoisting s name schema.facts.node.place) name) fields u) ∧
      t = Run.finished u name (.record (some name) fields text) := by
  cases derived with
  | record _ _ inside described => exact .inl ⟨rfl, _, _, rfl, described, inside⟩
  | hoistedBefore _ _ contextual before => exact .inr (.inl ⟨contextual, rfl, rfl, before⟩)
  | hoisted _ _ contextual anew unique inside described =>
      exact .inr (.inr ⟨_, _, _, _, contextual, rfl, anew, unique, described, inside, rfl⟩)
  | _ => simp_all [isScalarKind]

theorem Derives.of_union (derived : Derives schemas (.bare schema context s type t))
    (kind : schema.facts.kind = .union) :
    ∃ types, type = .union none types ∧
      Derives schemas (.each (unionParts context 1 schema.members) s types t) := by
  cases derived with
  | union _ inside => exact ⟨_, rfl, inside⟩
  | _ => simp_all [isScalarKind]

theorem Derives.of_allOf (derived : Derives schemas (.bare schema context s type t))
    (kind : schema.facts.kind = .allOf) :
    ∃ types u, Derives schemas
        (.each (typedParts (mergeName context) 1 schema.members) s types u) ∧
      Derives schemas (.combined schema.facts (mergeName context) types u type t) := by
  cases derived with
  | allOf _ inside merge => exact ⟨_, _, inside, merge⟩
  | _ => simp_all [isScalarKind]

theorem Derives.of_any (derived : Derives schemas (.bare schema context s type t))
    (kind : schema.facts.kind = .any) : ∃ reason, type = .unknown reason := by
  cases derived with
  | any => exact ⟨_, rfl⟩
  | unsupported => exact ⟨_, rfl⟩
  | _ => simp_all [isScalarKind]

/-! ## The rules of a component -/

theorem Derives.named_object (derived : Derives schemas (.named name schema s type t))
    (kind : schema.facts.kind = .object) (properties : schema.properties ≠ []) :
    ∃ fields text, type = .record (some name) fields text ∧
      strip schema.facts.description = .ok text ∧
      Derives schemas
        (.fields (some name) schema.facts.required schema.properties s fields t) := by
  cases derived with
  | namedRecord _ _ inside described => exact ⟨_, _, rfl, described, inside⟩
  | namedOther record => exact absurd (record kind) properties
  | _ => simp_all

theorem Derives.named_allOf (derived : Derives schemas (.named name schema s type t))
    (kind : schema.facts.kind = .allOf) :
    ∃ types u, Derives schemas (.each (typedParts (some name) 1 schema.members) s types u) ∧
      Derives schemas (.combined schema.facts (some name) types u type t) := by
  cases derived with
  | namedMerge _ inside merge => exact ⟨_, _, inside, merge⟩
  | _ => simp_all

theorem Derives.named_union (derived : Derives schemas (.named name schema s type t))
    (kind : schema.facts.kind = .union) :
    ∃ types, type = Translation.namedUnion name schema.facts.nullable types ∧
      Derives schemas (.each (numberedParts name schema.members) s types t) := by
  cases derived with
  | namedUnion _ inside => exact ⟨_, rfl, inside⟩
  | _ => simp_all

/-- A component of another kind has the type of its schema. -/
theorem Derives.named_other (derived : Derives schemas (.named name schema s type t))
    (record : schema.facts.kind = .object → schema.properties = [])
    (merge : schema.facts.kind ≠ .allOf) (union : schema.facts.kind ≠ .union) :
    Derives schemas (.schema schema name s type t) := by
  cases derived with
  | namedOther _ _ _ inside => exact inside
  | _ => simp_all

/-! ## Lists of parts -/

/-- Each part of a list has its own derivation on the way. -/
theorem Derives.of_each {parts : List (Schema × String)} {types : List Ty}
    (derived : Derives schemas (.each parts s types t)) :
    List.Forall₂ (fun part type => ∃ u v, u.Before t ∧ v.Before t ∧
      Derives schemas (.schema part.1 part.2 u type v)) parts types := by
  induction parts generalizing s types with
  | nil =>
      cases derived with
      | eachNil => exact .nil
  | cons part parts ih =>
      cases derived with
      | eachCons head tail =>
          have rest := tail.grows.before
          exact .cons ⟨_, _, head.grows.before.trans rest, rest, head⟩ (ih tail)

/-- Each type of the members of an `allOf` is that of one of them. -/
theorem Derives.of_typed {name : Option String} {members : List Schema} {types : List Ty}
    {type : Ty} (derived : Derives schemas (.each (typedParts name 1 members) s types t))
    (held : type ∈ types) :
    ∃ member ∈ members, ∃ context u v, v.Before t ∧
      Derives schemas (.schema member context u type v) := by
  obtain ⟨part, inParts, u, v, -, earlier, own⟩ := exists_of_forall₂_right derived.of_each held
  have inside : part.1 ∈ (typedParts name 1 members).map Prod.fst := List.mem_map_of_mem inParts
  rw [map_fst_typedParts] at inside
  exact ⟨part.1, (List.mem_filter.1 inside).1, part.2, u, v, earlier, own⟩

/-- Each source of a merge has its own derivation on the way. -/
theorem Derives.of_sources {types sources : List Ty}
    (derived : Derives schemas (.sources types s sources t)) :
    List.Forall₂ (fun type source => ∃ u v, s.Before u ∧ u.Before t ∧ v.Before t ∧
      Derives schemas (.source type u source v)) types sources := by
  induction types generalizing s sources with
  | nil =>
      cases derived with
      | sourcesNil => exact .nil
  | cons type types ih =>
      cases derived with
      | sourcesCons head tail =>
          have rest := tail.grows.before
          refine .cons ⟨_, _, .refl _, head.grows.before.trans rest, rest, head⟩ ?_
          refine (ih tail).imp ?_
          rintro type source ⟨u, v, first, inside, after, derived⟩
          exact ⟨u, v, head.grows.before.trans first, inside, after, derived⟩

end TypedContract.Translation
