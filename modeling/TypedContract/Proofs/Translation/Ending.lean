/-
# TypedContract.Proofs.Translation.Ending -- every translation comes to an end

A component is registered inside another, and a component in progress is built anew for a
merge inside another, so the translation of one component may run into any number of
others and back into itself.  The room of a session is what keeps that finite: the number
of components that are neither registered nor in progress, and the number of those that
are not being built anew.  A registration that begins takes the one down, a rebuilding
that begins the other, and nothing takes either up again.

A step `ComesBack` in a room when it comes back for every number of components inside one
another that exceeds the room, with the same result and session for all of them.  Over
well-typed component schemas each step of a translation comes back in every room, by the
rules of translations and induction on the room (`WellTyped.builds`).  There is less
room than the bound that the program computes from the document, so a component is always
translated, and a larger bound changes nothing (`Translator.component_returns`).
-/
import TypedContract.Proofs.Schema.Typed
import TypedContract.Proofs.Translation.Growth
import TypedContract.Proofs.Translation.Translator

namespace TypedContract

set_option autoImplicit false

namespace Translation

open Schema

variable {schemas : Node} {s t : Session} {name : String} {type : Ty} {limit : Nat}

/-! ## Room -/

/-- The names of the component schemas. -/
def componentNames (schemas : Node) : List String :=
  match schemas.value with
  | .object entries => entries.map (·.1)
  | _ => []

/-- How many components may still begin to be registered or to be built anew. -/
def room (schemas : Node) (s : Session) : Nat :=
  (componentNames schemas).countP (fun name => !s.registry.contains name) +
    (componentNames schemas).countP (fun name => !s.rebuilding.contains name)

theorem mem_componentNames (object : ∃ entries, schemas.value = .object entries)
    (held : schemas.value.holds name = .ok true) : name ∈ componentNames schemas := by
  obtain ⟨entries, object⟩ := object
  rw [object] at held
  obtain ⟨value, found⟩ := Option.isSome_iff_exists.1 (Except.ok.inj held)
  rw [componentNames, object]
  exact List.mem_map.2 ⟨(name, value), Json.mem_of_find? found, rfl⟩

/-- What only adds makes no room. -/
theorem room_le (contains : ∀ name, s.registry.contains name = true → t.registry.contains name = true)
    (rebuilding : t.rebuilding = s.rebuilding) : room schemas t ≤ room schemas s := by
  unfold room
  rw [rebuilding]
  refine Nat.add_le_add_right (List.countP_mono_left fun name _ absent => ?_) _
  cases held : s.registry.contains name with
  | false => rfl
  | true =>
      rw [contains name held] at absent
      cases absent

/-- A registration that begins takes room. -/
theorem room_begun (member : name ∈ componentNames schemas)
    (fresh : s.registry.contains name = false) :
    room schemas (Run.begun s name) < room schemas s := by
  refine Nat.add_lt_add_right (countP_lt_countP (fun other absent => ?_) member ?_ ?_) _
  · cases held : s.registry.contains other with
    | false => rfl
    | true =>
        have still : (Run.begun s name).registry.contains other = true := Registry.contains_start held
        rw [still] at absent
        cases absent
  · rw [Registry.contains_iff.2 (.inr List.mem_cons_self)]
    rfl
  · rw [fresh]
    rfl

/-- A rebuilding that begins takes room. -/
theorem room_rebuilding (member : name ∈ componentNames schemas)
    (idle : s.rebuilding.contains name = false) :
    room schemas { s with rebuilding := name :: s.rebuilding } < room schemas s := by
  refine Nat.add_lt_add_left (countP_lt_countP (fun other absent => ?_) member ?_ ?_) _
  · simp only [List.contains_cons, Bool.not_eq_true', Bool.or_eq_false_iff] at absent
    rw [absent.2]
    rfl
  · simp
  · rw [idle]
    rfl

theorem room_lt_componentBound (object : ∃ entries, schemas.value = .object entries) :
    room schemas s < componentBound schemas := by
  obtain ⟨entries, object⟩ := object
  have bound : componentBound schemas = 2 * entries.length + 2 := by
    simp [componentBound, object, Json.elements]
  have length : (componentNames schemas).length = entries.length := by
    simp [componentNames, object]
  have unregistered := List.countP_le_length (p := fun name => !s.registry.contains name)
    (l := componentNames schemas)
  have idle := List.countP_le_length (p := fun name => !s.rebuilding.contains name)
    (l := componentNames schemas)
  unfold room
  omega

/-! ## Steps that come back -/

/-- Begun with no more room than the limit, the step comes back whenever it is tied for
more components inside one another, and neither the result nor the session depends on for
how many more. -/
def ComesBack (schemas : Node) (limit : Nat) (α : Type) (steps : Nat → Run α) : Prop :=
  ∀ s : Session, room schemas s ≤ limit → ∃ a t, s.Grows t ∧
    ∀ bound, limit < bound → Run.Returns (steps bound) s a t

namespace ComesBack

variable {α β : Type}

theorem pure (a : α) : ComesBack schemas limit α fun _ => Pure.pure a :=
  fun s _ => ⟨a, s, .refl s, fun _ _ => Run.returns_pure.2 ⟨rfl, rfl⟩⟩

theorem bind {step : Nat → Run α} {next : α → Nat → Run β}
    (first : ComesBack schemas limit α step) (second : ∀ a, ComesBack schemas limit β (next a)) :
    ComesBack schemas limit β fun bound => step bound >>= fun a => next a bound := by
  intro s small
  obtain ⟨a, t, grows, returns⟩ := first s small
  have less : room schemas t ≤ room schemas s :=
    room_le (fun _ => grows.contains) grows.rebuilding
  obtain ⟨b, u, more, returns'⟩ := second a t (Nat.le_trans less small)
  exact ⟨b, u, grows.trans more, fun bound above =>
    Run.returns_bind.2 ⟨a, t, returns bound above, returns' bound above⟩⟩

theorem read {result : Except Fault α} {next : α → Nat → Run β} (succeeds : IsOk α result)
    (rest : ∀ a, result = .ok a → ComesBack schemas limit β (next a)) :
    ComesBack schemas limit β fun bound => Run.lift result >>= fun a => next a bound := by
  obtain ⟨a, ok⟩ := succeeds
  intro s small
  obtain ⟨b, t, grows, returns⟩ := rest a ok s small
  exact ⟨b, t, grows, fun bound above =>
    Run.returns_bind.2 ⟨a, s, Run.returns_lift.2 ⟨ok, rfl⟩, returns bound above⟩⟩

theorem report {code : Diagnostic.Code} {args : List String} (other : code ≠ .danglingReference) :
    ComesBack schemas limit Unit fun _ => Run.report code args :=
  fun s _ => ⟨(), _, .reported s code args other, fun _ _ => Run.returns_report.2 rfl⟩

theorem hoist {place : Option Place} {context : String} {record : String → Nat → Run Ty}
    (inside : ∀ name, ComesBack schemas limit Ty (record name)) :
    ComesBack schemas limit Ty fun bound =>
      Translation.hoist place context fun name => record name bound := by
  intro s small
  cases before : isHoisted s context place with
  | true => exact ⟨_, s, .refl s, fun bound _ => returns_hoist.2 (.inl ⟨before, rfl, rfl⟩)⟩
  | false =>
      have begins : room schemas
          (Run.begun (hoisting s (s.registry.uniqueName context) place)
            (s.registry.uniqueName context)) ≤ room schemas s :=
        room_le (fun _ held => Registry.contains_start held) rfl
      obtain ⟨type, t, grows, returns⟩ := inside _ _ (Nat.le_trans begins small)
      exact ⟨_, _, (Session.Grows.hoisting s _ place).trans
        (.registration Registry.uniqueName_spec.1 grows), fun bound above =>
          returns_hoist.2 (.inr ⟨before, _, type, t, rfl, rfl, returns bound above, rfl⟩)⟩

end ComesBack

/-! ## Components -/

/-- Building any component comes back in the room. -/
def Builds (schemas : Node) (limit : Nat) : Prop :=
  ∀ (name : String) (schema : Schema), schema.Readable →
    ComesBack schemas limit Ty fun bound => buildNamed (Ties.within schemas bound) name schema

/-- Each component has the shape of a schema. -/
structure WellTyped (schemas : Node) : Prop where
  object : ∃ entries, schemas.value = .object entries
  fits : schemas.value.fits (.mapOf .schema) = true

namespace WellTyped

variable (typed : WellTyped schemas)

include typed

theorem holds (name : String) : IsOk Bool (schemas.value.holds name) := by
  obtain ⟨entries, object⟩ := typed.object
  rw [object]
  exact ⟨_, rfl⟩

theorem component (held : schemas.value.holds name = .ok true) :
    ∃ node schema, schemas.required name = .ok node ∧ parse node = .ok schema ∧
      schema.Readable := by
  obtain ⟨entries, object⟩ := typed.object
  have fits := typed.fits
  rw [object] at held
  rw [object, Json.fits] at fits
  obtain ⟨value, found⟩ := Option.isSome_iff_exists.1 (Except.ok.inj held)
  obtain ⟨node, required, rfl⟩ := Node.exists_required_of_find? object found
  have own : node.value.fits .schema = true :=
    (Json.fits_of_mem_values fits (Json.mem_of_find? found)).1
  obtain ⟨schema, parsed, read⟩ := exists_parse node own
  exact ⟨node, schema, required, parsed, read⟩

theorem atUse (held : schemas.value.holds name = .ok true) :
    IsOk Bool (admitsNilAtUse schemas name) := by
  obtain ⟨node, schema, required, parsed, -⟩ := typed.component held
  unfold admitsNilAtUse
  rw [required, except_ok_bind, parsed, except_ok_bind]
  split <;> exact ⟨_, rfl⟩

/-- Building components with less room is enough to register one. -/
theorem comesBack_component (inside : ∀ less < limit, Builds schemas less)
    (held : schemas.value.holds name = .ok true) :
    ComesBack schemas limit Ty fun bound => (Ties.within schemas bound).component name := by
  obtain ⟨node, schema, required, parsed, read⟩ := typed.component held
  intro s small
  have opened : ∀ {bound : Nat} {type : Ty} {t : Session},
      Run.Returns (Run.register name do
        buildNamed (Ties.within schemas bound) name (← Run.lift (parse node))) s type t →
      Run.Returns ((Ties.within schemas (bound + 1)).component name) s type t :=
    fun registered => Run.returns_bind.2 ⟨node, s, Run.returns_lift.2 ⟨required, rfl⟩, registered⟩
  -- a known component is looked up; a new one leaves one less to be registered inside it
  cases known : s.registry.contains name with
  | true =>
      obtain ⟨type, found⟩ : ∃ type, s.registry.enter name = .inl type := by
        rcases Registry.contains_iff.1 known with ⟨type, found⟩ | building
        · exact ⟨type, Registry.enter_eq_inl_iff.2 (.inl found)⟩
        · cases found : s.registry.get? name with
          | some type => exact ⟨type, Registry.enter_eq_inl_iff.2 (.inl found)⟩
          | none => exact ⟨_, Registry.enter_eq_inl_iff.2 (.inr ⟨found, building, rfl⟩)⟩
      refine ⟨type, s, .refl s, fun bound above => ?_⟩
      obtain ⟨smaller, rfl⟩ := Nat.exists_eq_succ_of_ne_zero (Nat.ne_zero_of_lt above)
      exact opened (Run.returns_register.2 (.inl ⟨found, rfl⟩))
  | false =>
      have begins := room_begun (mem_componentNames typed.object held) known
      obtain ⟨type, t, grows, returns⟩ :=
        inside (limit - 1) (by omega) name schema read (Run.begun s name) (by omega)
      refine ⟨type, Run.finished t name type, .registration known grows, fun bound above => ?_⟩
      obtain ⟨smaller, rfl⟩ := Nat.exists_eq_succ_of_ne_zero (Nat.ne_zero_of_lt above)
      refine opened (Run.returns_register.2 (.inr ⟨Registry.enter_eq_inr_iff.2 ⟨known, rfl⟩, t, ?_,
        rfl⟩))
      exact Run.returns_bind.2 ⟨schema, _, Run.returns_lift.2 ⟨parsed, rfl⟩,
        returns smaller (by omega)⟩

/-- Building components with less room is enough to merge with one. -/
theorem comesBack_mergeSource (inside : ∀ less < limit, Builds schemas less) :
    ComesBack schemas limit Ty fun bound => mergeSource (Ties.within schemas bound) type := by
  have same : ∀ bound, (Ties.within schemas bound).schemas = schemas := fun bound =>
    (Ties.within_sound schemas bound).same
  intro s small
  by_cases meets : ∃ name, s.registry.resolve (bareMember type) = .reference name ∧
      Rebuilds schemas s name
  · obtain ⟨name, leads, rebuilds⟩ := meets
    obtain ⟨node, schema, required, parsed, read⟩ := typed.component rebuilds.2.1
    have begins := room_rebuilding (mem_componentNames typed.object rebuilds.2.1) rebuilds.2.2
    obtain ⟨source, u, grows, returns⟩ := inside (limit - 1) (by omega) name schema read _
      (show room schemas { s with rebuilding := name :: s.rebuilding } ≤ limit - 1 by omega)
    refine ⟨source, _, .rebuilt rebuilds.2.2 grows, fun bound above => ?_⟩
    obtain ⟨smaller, rfl⟩ := Nat.exists_eq_succ_of_ne_zero (Nat.ne_zero_of_lt above)
    refine returns_mergeSource.2 (.inr ⟨name, u, leads, (same _).symm ▸ rebuilds, ?_, rfl⟩)
    exact Run.returns_bind.2 ⟨node, _, Run.returns_lift.2 ⟨required, rfl⟩,
      Run.returns_bind.2 ⟨schema, _, Run.returns_lift.2 ⟨parsed, rfl⟩,
        returns smaller (by omega)⟩⟩
  · refine ⟨_, s, .refl s, fun bound _ => returns_mergeSource.2 (.inl ⟨?_, rfl, rfl⟩)⟩
    intro name leads progress
    obtain ⟨held, holds⟩ := typed.holds name
    refine ⟨held, (same _).symm ▸ holds, ?_⟩
    by_contra apart
    rw [not_or, Bool.not_eq_false, Bool.not_eq_true] at apart
    exact meets ⟨name, leads, progress, apart.1 ▸ holds, apart.2⟩

/-- Building a component comes back in every room: what it runs into has less. -/
theorem builds (limit : Nat) : Builds schemas limit := by
  induction limit using Nat.strongRecOn with
  | ind limit inside =>
      have rules : Rules schemas (Ties.within schemas) IsOk (ComesBack schemas limit) := {
        same := fun bound => (Ties.within_sound schemas bound).same
        holds := typed.holds
        atUse := fun _ => typed.atUse
        pure := .pure
        bind := .bind
        read := .read
        report := .report
        component := typed.comesBack_component inside
        hoist := .hoist
        mergeSource := typed.comesBack_mergeSource inside
      }
      exact fun name schema read => rules.buildNamed read

/-- A component is translated from every session, and from the bound of the program on with
one result. -/
theorem exists_component (held : schemas.value.holds name = .ok true) (s : Session) :
    ∃ type t, s.Grows t ∧ ∀ bound, componentBound schemas ≤ bound →
      Run.Returns ((Ties.within schemas bound).component name) s type t := by
  have back : ComesBack schemas (componentBound schemas - 1) Ty fun bound =>
      (Ties.within schemas bound).component name :=
    typed.comesBack_component (fun less _ => typed.builds less) held
  have small : room schemas s < componentBound schemas := room_lt_componentBound typed.object
  obtain ⟨type, t, grows, returns⟩ := back s (Nat.le_pred_of_lt small)
  exact ⟨type, t, grows, fun bound above => returns bound (by omega)⟩

end WellTyped

end Translation

open Translation

/-- Component schemas of the right shape are well typed: the document gives an object. -/
theorem Contract.wellTyped {document schemas : Node}
    (found : Contract.schemas document = .ok schemas)
    (fits : schemas.value.fits (.mapOf .schema) = true) : WellTyped schemas := by
  refine ⟨?_, fits⟩
  rcases Json.object_of_fits fits with null | ⟨entries, object, -⟩
  · rcases truthy_schemas found with truthy | empty
    · rw [null] at truthy
      cases truthy
    · exact ⟨[], empty⟩
  · exact ⟨entries, object⟩

namespace Translator

/-- Whatever well-typed component schemas refer to one another, each component is
translated: with the bound computed from the document or any larger one, and with one
result.  Then nothing is in progress and nothing is being built anew. -/
theorem component_returns {document schemas : Node}
    (found : Contract.schemas document = .ok schemas)
    (fits : schemas.value.fits (.mapOf .schema) = true) (s : Session) :
    ∃ translator t, Run.Returns (create document) s translator t ∧
      ∀ (name : String) (u : Session), schemas.value.holds name = .ok true →
        u.registry.building = [] → u.rebuilding = [] →
        ∃ type v, Run.Returns (translator.component name) u type v ∧
          v.registry.get? name = some type ∧ v.registry.building = [] ∧ v.rebuilding = [] ∧
          ∀ bound, componentBound schemas ≤ bound →
            Run.Returns ((Ties.within schemas bound).component name) u type v := by
  have typed := Contract.wellTyped found fits
  obtain ⟨t, created⟩ := exists_create found typed.object s
  refine ⟨_, t, created, fun name u held idle quiet => ?_⟩
  obtain ⟨type, v, grows, enough⟩ := typed.exists_component held u
  have returned := enough _ (Nat.le_refl _)
  have registered := ((Ties.within_sound schemas _).component returned).registered idle
  exact ⟨type, v, returned, registered, grows.building.trans idle, grows.rebuilding.trans quiet,
    enough⟩

/-- Components that lead back to themselves through properties, items, a choice, an `allOf`,
another name and an inline object. -/
def knotContract : Json :=
  .object [("components", .object [("schemas", .object [
    ("Node", .object [("type", .str "object"), ("properties", .object [
      ("next", reference "Node"),
      ("peers", .object [("type", .str "array"), ("items", reference "Alias")]),
      ("inline", .object [("type", .str "object"), ("properties", .object [
        ("up", reference "Merge")])])])]),
    ("Alias", reference "Node"),
    ("Merge", .object [("allOf", .list [reference "Node", .object [("type", .str "object"),
      ("properties", .object [("back", reference "Choice")])]])]),
    ("Choice", .object [("oneOf", .list [reference "Merge", .object [("type", .str "string")]])])])])]
where
  /-- A reference to a component. -/
  reference (name : String) : Json := .object [("$ref", .str (Schema.componentPath ++ name))]

theorem component_returns_knot : ∃ schemas translator t type v,
    Contract.schemas (.root 0 knotContract) = .ok schemas ∧
    schemas.value.fits (.mapOf .schema) = true ∧
    schemas.value.holds "Merge" = .ok true ∧
    Run.Returns (create (.root 0 knotContract)) {} translator t ∧
    t.registry.building = [] ∧ t.rebuilding = [] ∧
    Run.Returns (translator.component "Merge") t type v ∧
    v.registry.get? "Merge" = some type ∧ v.registry.building = [] ∧ v.rebuilding = [] ∧
    ∀ bound, componentBound schemas ≤ bound →
      Run.Returns ((Ties.within schemas bound).component "Merge") t type v := by
  obtain ⟨schemas, found, fits, held⟩ : ∃ schemas,
      Contract.schemas (.root 0 knotContract) = .ok schemas ∧
      schemas.value.fits (.mapOf .schema) = true ∧ schemas.value.holds "Merge" = .ok true :=
    ⟨_, rfl, by decide +kernel, rfl⟩
  obtain ⟨translator, t, created, each⟩ := component_returns found fits {}
  obtain ⟨-, -, names, -, made⟩ := returns_create created
  have idle : t.registry.building = [] := made ▸ rfl
  have quiet : t.rebuilding = [] := made ▸ rfl
  obtain ⟨type, v, returned⟩ := each "Merge" t held idle quiet
  exact ⟨schemas, translator, t, type, v, found, fits, held, created, idle, quiet, returned⟩

end Translator

end TypedContract
