/-
# TypedContract.Proofs.Translation.Pointing -- two readings of a reference to a component

A document is followed by references in which each `~` and each `/` of a name is escaped.  A
translation reads the same references in its own way: it takes what stands behind the common
beginning for the name as it is.  So the reference to a component is translated as one to the
component whose name is the written form of that name (`refName_pointerTo`), and only a name
that is its own written form, one with neither `~` nor `/`, is read alike
(`written_eq_self_iff`).

For all other names the two part, whatever the document holds: the type refers to another
component or to none (`refers_iff_of_pointer`, `pointed_past`).
-/
import TypedContract.Proofs.Json.Pointer
import TypedContract.Proofs.Translation.Ending
import TypedContract.Proofs.Ty.References

namespace TypedContract

set_option autoImplicit false

/-! ## Names in references -/

namespace Schema

variable {name : String}

/-- The reference that the document is followed by to a component schema. -/
def pointerTo (name : String) : String := Pointer.ofKeys ["components", "schemas", name]

/-- The name as it stands in a reference. -/
def written (name : String) : String := String.ofList (Pointer.escape name.toList)

theorem toList_pointerTo (name : String) :
    (pointerTo name).toList = componentPath.toList ++ (written name).toList := by
  have components : Pointer.escape "components".toList = "components".toList := by decide +kernel
  have schemas : Pointer.escape "schemas".toList = "schemas".toList := by decide +kernel
  have path : componentPath.toList =
      '#' :: '/' :: ("components".toList ++ ['/'] ++ ("schemas".toList ++ ['/'])) := by
    decide +kernel
  rw [pointerTo, Pointer.ofKeys, String.toList_ofList, written, String.toList_ofList, path]
  simp only [List.map_cons, List.map_nil, components, schemas, Text.joinWith, List.append_assoc,
    List.cons_append]

/-- The translation takes the written form for the name. -/
theorem refName_pointerTo {facts : Facts} (ref : facts.ref = .str (pointerTo name)) :
    facts.refName = .ok (some (written name)) := by
  have before : componentPath.toList.isPrefixOf (pointerTo name).toList = true := by
    rw [List.isPrefixOf_iff_prefix, toList_pointerTo]
    exact List.prefix_append _ _
  have behind : (pointerTo name).toList.drop componentPath.length = (written name).toList := by
    rw [toList_pointerTo]
    exact List.drop_left
  rw [Facts.refName, ref]
  simp only [before, if_true, behind, String.ofList_toList]

theorem written_eq_self_iff : written name = name ↔ '~' ∉ name.toList ∧ '/' ∉ name.toList := by
  rw [← Pointer.escape_eq_self_iff, ← String.toList_inj, written, String.toList_ofList]

end Schema

/-! ## The component at the end of a reference -/

namespace Contract

open Schema

variable {document schemas component : Node} {name : String}

/-- A member that does not count as absent is there. -/
theorem find?_of_member {node found : Node} (member : node.member name = .ok found)
    (truthy : found.value.truthy = true) :
    ∃ entries, node.value = .object entries ∧ node.find? name entries = some found := by
  unfold Node.member Node.member? at member
  cases object : node.value with
  | object entries =>
      rw [object] at member
      obtain rfl := except_pure_eq_ok.1 member
      cases held : node.find? name entries with
      | none => simp [held, Node.free, Json.truthy] at truthy
      | some inner => exact ⟨entries, rfl, held⟩
  | _ => simp [object, bind, Except.bind] at member

/-- What has an entry does not count as absent. -/
theorem eq_of_find?_orElse {node inner : Node} {entries : List (String × Json)}
    (object : (node.orElse empty).value = .object entries)
    (held : (node.orElse empty).find? name entries = some inner) :
    node.orElse empty = node ∧ node.value.truthy = true := by
  unfold Node.orElse at object held ⊢
  by_cases truthy : node.value.truthy = true
  · rw [if_pos truthy]
    exact ⟨rfl, truthy⟩
  · rw [if_neg truthy] at object held
    cases object
    cases held

/-- The keys of a reference lead to the component. -/
theorem keysLead_of_schemas (found : Contract.schemas document = .ok schemas)
    (held : schemas.required name = .ok component) :
    document.KeysLead ["components", "schemas", name] component := by
  simp only [Contract.schemas, except_bind_eq_ok, except_pure_eq_ok] at found
  obtain ⟨outer, first, inner, second, rfl⟩ := found
  unfold Node.required at held
  split at held
  · rename_i entries object
    split at held
    · rename_i last entry
      cases held
      obtain ⟨same, truthy⟩ := eq_of_find?_orElse object entry
      rw [same] at object entry
      obtain ⟨above, object', entry'⟩ := find?_of_member second truthy
      obtain ⟨same', truthy'⟩ := eq_of_find?_orElse object' entry'
      rw [same'] at object' entry'
      obtain ⟨top, object'', entry''⟩ := find?_of_member first truthy'
      exact .through object'' entry'' (.through object' entry' (.through object entry .here))
    · cases held
  · cases held

end Contract

/-! ## Translating a reference -/

namespace Translation

open Schema

variable {ties : Ties} {facts : Facts} {name : String} {s t : Session} {type : Ty}

/-- A reference to a name that is no component is reported. -/
theorem returns_reference_absent (named : facts.refName = .ok (some name))
    (absent : ties.schemas.value.holds name = .ok false) :
    Run.Returns (reference ties facts) s type t ↔
      reported s .unresolvedReference [facts.ref.plain] = t ∧
        .unknown ("unresolved " ++ facts.ref.plain) = type := by
  unfold reference
  simp [named, absent, reported]

/-- A reference to a component registers it. -/
theorem returns_reference_held (named : facts.refName = .ok (some name))
    (held : ties.schemas.value.holds name = .ok true) :
    Run.Returns (reference ties facts) s type t ↔ ∃ known nilable,
      Run.Returns (ties.component name) s known t ∧
        admitsNilAtUse ties.schemas name = .ok nilable ∧ referenceType nilable name = type := by
  unfold reference
  constructor
  · intro returned
    simp [named, held] at returned
    obtain ⟨known, u, registered, ⟨atUse, rfl, rfl⟩ | ⟨atUse, rfl, rfl⟩⟩ := returned
    · exact ⟨known, false, registered, atUse, rfl⟩
    · exact ⟨known, true, registered, atUse, rfl⟩
  · rintro ⟨known, nilable, registered, atUse, rfl⟩
    cases nilable <;> simp [named, held, atUse, referenceType] <;> exact ⟨known, registered⟩

theorem references_referenceType (nilable : Bool) (name : String) :
    (referenceType nilable name).references = [name] := by
  cases nilable <;> simp [referenceType, Ty.references_union]

theorem exists_admitsNilAtUse_iff {schemas component : Node} (held : schemas.required name = .ok component) :
    (∃ nilable, admitsNilAtUse schemas name = .ok nilable) ↔ ∃ schema, parse component = .ok schema := by
  unfold admitsNilAtUse
  rw [held, except_ok_bind]
  cases parse component with
  | error fault => exact iff_of_false (fun ⟨_, read⟩ => nomatch read) (fun ⟨_, parsed⟩ => nomatch parsed)
  | ok schema =>
      refine iff_of_true ?_ ⟨schema, rfl⟩
      rw [except_ok_bind]
      split <;> exact ⟨_, rfl⟩

end Translation

namespace Translator

open Schema Translation

variable {document component : Node} {translator : Translator} {s t : Session} {name : String}

/-- An object that is nothing but a reference. -/
def referring (text : String) (place : Option Place) : Node := ⟨.object [("$ref", .str text)], place⟩

theorem exists_facts_of_referring (translator : Translator) (text : String) (place : Option Place)
    (context : String) : ∃ facts : Facts, facts.ref = .str text ∧ ∀ {s t : Session} {type : Ty},
      Run.Returns (translator.translateNode (referring text place) context) s type t ↔
        Run.Returns (reference translator.ties facts) s type t := by
  obtain ⟨facts, parsed, kind, ref, plain⟩ : ∃ facts : Facts,
      parse (referring text place) = .ok (.mk facts none [] none []) ∧
      facts.kind = .reference ∧ facts.ref = .str text ∧ facts.nullable = false :=
    ⟨_, rfl, rfl, rfl, rfl⟩
  refine ⟨facts, ref, ?_⟩
  intro s t type
  have bare : ∀ type : Ty, withNil false type = type := fun _ => rfl
  simp [translateNode, parsed, Translator.translate, Translation.translate, kind, plain, bare]

theorem holds_of_required (held : translator.schemas.required name = .ok component) (other : String) :
    ∃ known, translator.schemas.value.holds other = .ok known := by
  unfold Node.required at held
  split at held
  · rename_i entries object
    rw [object]
    exact ⟨_, rfl⟩
  · cases held

theorem holds_eq_true (held : translator.schemas.required name = .ok component) :
    translator.schemas.value.holds name = .ok true := by
  have required := Node.value_of_required held
  unfold Json.required at required
  split at required
  · rename_i entries object
    split at required
    · rename_i found
      simp [object, Json.holds, found]
    · cases required
  · cases required

/-- The reference to a component whose name is its own written form is translated as the
component is. -/
theorem returns_pointer_iff (plain : written name = name)
    (held : translator.schemas.required name = .ok component) {place : Option Place} {context : String}
    {type : Ty} :
    Run.Returns (translator.translateNode (referring (pointerTo name) place) context) s type t ↔
      ∃ known nilable, Run.Returns (translator.component name) s known t ∧
        admitsNilAtUse translator.schemas name = .ok nilable ∧ referenceType nilable name = type := by
  obtain ⟨facts, ref, opened⟩ := exists_facts_of_referring translator (pointerTo name) place context
  rw [opened]
  exact returns_reference_held (plain ▸ refName_pointerTo ref) (holds_eq_true held)

/-- The type of a reference to a component refers to the written form of its name or to
nothing. -/
theorem written_eq_of_refers (held : translator.schemas.required name = .ok component)
    {place : Option Place} {context other : String} {type : Ty}
    (returned : Run.Returns (translator.translateNode (referring (pointerTo name) place) context) s type t)
    (refers : other ∈ type.references) : written name = other := by
  obtain ⟨facts, ref, opened⟩ := exists_facts_of_referring translator (pointerTo name) place context
  rw [opened] at returned
  have named := refName_pointerTo ref
  obtain ⟨present, holds⟩ := holds_of_required held (written name)
  cases present with
  | false =>
      obtain ⟨-, rfl⟩ := (returns_reference_absent named holds).1 returned
      cases refers
  | true =>
      obtain ⟨known, nilable, -, -, rfl⟩ := (returns_reference_held named holds).1 returned
      rw [references_referenceType, List.mem_singleton] at refers
      exact refers.symm

/-- Over well-typed component schemas each component is translated, from every session. -/
theorem exists_component_of_create (created : Run.Returns (create document) s translator t)
    (fits : translator.schemas.value.fits (.mapOf .schema) = true)
    (held : translator.schemas.value.holds name = .ok true) (u : Session) :
    ∃ type v, Run.Returns (translator.component name) u type v := by
  obtain ⟨found, ties, -⟩ := returns_create created
  obtain ⟨type, v, -, registered⟩ := (Contract.wellTyped found fits).exists_component held u
  refine ⟨type, v, ?_⟩
  change Run.Returns (translator.ties.component name) u type v
  rw [ties]
  exact registered _ (Nat.le_refl _)

/-- Over well-typed component schemas a reference to a component is translated. -/
theorem exists_pointer (created : Run.Returns (create document) s translator t)
    (held : translator.schemas.required name = .ok component)
    (fits : translator.schemas.value.fits (.mapOf .schema) = true) (place : Option Place)
    (context : String) (u : Session) : ∃ type v,
      Run.Returns (translator.translateNode (referring (pointerTo name) place) context) u type v := by
  obtain ⟨facts, ref, opened⟩ := exists_facts_of_referring translator (pointerTo name) place context
  have named := refName_pointerTo ref
  obtain ⟨present, holds⟩ := holds_of_required held (written name)
  cases present with
  | false => exact ⟨_, _, opened.2 ((returns_reference_absent named holds).2 ⟨rfl, rfl⟩)⟩
  | true =>
      obtain ⟨known, v, registered⟩ := exists_component_of_create created fits holds u
      obtain ⟨nilable, atUse⟩ := (Contract.wellTyped (returns_create created).1 fits).atUse holds
      exact ⟨_, v, opened.2 ((returns_reference_held named holds).2
        ⟨known, nilable, registered, atUse, rfl⟩)⟩

/-- The unresolved references that were reported. -/
def unresolved (s : Session) : List Diagnostic :=
  s.diagnostics.filter fun diagnostic => diagnostic.code == .unresolvedReference

/-- A document is followed to each of its components.  The same reference is translated into
one to the component, with nothing reported as unresolved, exactly when the name has neither
`~` nor `/` and the component itself is translated so.  Over well-typed component schemas it is
always translated, and for such a name as the component is. -/
theorem refers_iff_of_pointer (created : Run.Returns (create document) s translator t)
    (held : translator.schemas.required name = .ok component) (place : Option Place)
    (context : String) (u : Session) :
    Pointer.resolve document (.str (pointerTo name)) = .ok component ∧
    ((∃ type v,
        Run.Returns (translator.translateNode (referring (pointerTo name) place) context) u type v ∧
        name ∈ type.references ∧ unresolved v = unresolved u) ↔
      ('~' ∉ name.toList ∧ '/' ∉ name.toList) ∧ (∃ schema, parse component = .ok schema) ∧
        ∃ known v, Run.Returns (translator.component name) u known v ∧ unresolved v = unresolved u) ∧
    (translator.schemas.value.fits (.mapOf .schema) = true → ∃ type v known w,
      Run.Returns (translator.translateNode (referring (pointerTo name) place) context) u type v ∧
      Run.Returns (translator.component name) u known w ∧
      (name ∈ type.references ↔ '~' ∉ name.toList ∧ '/' ∉ name.toList) ∧
      ('~' ∉ name.toList ∧ '/' ∉ name.toList → v = w)) := by
  have found := (returns_create created).1
  rw [← written_eq_self_iff]
  refine ⟨Pointer.resolve_eq_ok_iff.2 (Contract.keysLead_of_schemas found held), ?_, fun fits => ?_⟩
  · constructor
    · rintro ⟨type, v, returned, refers, quiet⟩
      have plain := written_eq_of_refers held returned refers
      obtain ⟨known, nilable, registered, atUse, -⟩ := (returns_pointer_iff plain held).1 returned
      exact ⟨plain, (exists_admitsNilAtUse_iff held).1 ⟨nilable, atUse⟩, known, v, registered, quiet⟩
    · rintro ⟨plain, parsed, known, v, registered, quiet⟩
      obtain ⟨nilable, atUse⟩ := (exists_admitsNilAtUse_iff held).2 parsed
      refine ⟨_, v, (returns_pointer_iff plain held).2 ⟨known, nilable, registered, atUse, rfl⟩, ?_, quiet⟩
      rw [references_referenceType]
      exact List.mem_singleton_self name
  · obtain ⟨type, v, returned⟩ := exists_pointer created held fits place context u
    by_cases plain : written name = name
    · obtain ⟨known, nilable, registered, -, rfl⟩ := (returns_pointer_iff plain held).1 returned
      refine ⟨_, v, known, v, returned, registered, iff_of_true ?_ plain, fun _ => rfl⟩
      rw [references_referenceType]
      exact List.mem_singleton_self name
    · obtain ⟨known, w, own⟩ := exists_component_of_create created fits (holds_eq_true held) u
      refine ⟨type, v, known, w, returned, own, iff_of_false (fun refers => ?_) plain,
        fun same => absurd same plain⟩
      exact plain (written_eq_of_refers held returned refers)

/-- Two components, one of them with a `/` in its name. -/
def tagged : Json :=
  .object [("components", .object [("schemas", .object [
    ("Pet", .object [("type", .str "object"),
      ("properties", .object [("self", .object [("$ref", .str "#/components/schemas/Pet")])])]),
    ("Pet/Tag", .object [("type", .str "string")])])])]

theorem refers_iff_of_pointer_pet : ∃ translator t component type v,
    Run.Returns (create (.root 0 tagged)) {} translator t ∧
    translator.schemas.required "Pet" = .ok component ∧
    translator.schemas.value.fits (.mapOf .schema) = true ∧
    pointerTo "Pet" = "#/components/schemas/Pet" ∧
    Pointer.resolve (.root 0 tagged) (.str (pointerTo "Pet")) = .ok component ∧
    Run.Returns (translator.translateNode (referring (pointerTo "Pet") none) "") t type v ∧
    "Pet" ∈ type.references := by
  obtain ⟨translator, t, component, created, held, fits⟩ : ∃ translator t component,
      Run.Returns (create (.root 0 tagged)) {} translator t ∧
      translator.schemas.required "Pet" = .ok component ∧
      translator.schemas.value.fits (.mapOf .schema) = true :=
    ⟨_, _, _, rfl, rfl, by decide +kernel⟩
  obtain ⟨led, -, always⟩ := refers_iff_of_pointer created held none "" t
  obtain ⟨type, v, known, w, returned, -, refers, -⟩ := always fits
  exact ⟨translator, t, component, type, v, created, held, fits, by decide +kernel, led, returned,
    refers.2 (by decide +kernel)⟩

/-- The document is followed to a component with a `/` in its name, and the same reference is
reported as unresolved. -/
theorem pointed_past : ∃ translator t component v,
    Run.Returns (create (.root 0 tagged)) {} translator t ∧
    translator.schemas.required "Pet/Tag" = .ok component ∧ t.diagnostics = [] ∧
    Pointer.resolve (.root 0 tagged) (.str "#/components/schemas/Pet~1Tag") = .ok component ∧
    Run.Returns (translator.translateNode (referring "#/components/schemas/Pet~1Tag" none) "") t
      (.unknown "unresolved #/components/schemas/Pet~1Tag") v ∧
    v.diagnostics = [⟨.unresolvedReference, ["#/components/schemas/Pet~1Tag"], none⟩] :=
  ⟨_, _, _, _, rfl, rfl, rfl, rfl, rfl, rfl⟩

end Translator

end TypedContract
