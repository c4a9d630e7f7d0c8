/-
# TypedContract.Proofs.Translation.Alike -- sessions that no translation tells apart

The table of hoisted records is only asked about names that are registered, and a name
enters it when it is given to a record.  So two sessions with the same registry behave the
same although one of them remembers places of records that are registered no more: they
are `Alike` when they agree on the places of all names that are taken.  Component names
are reserved, hence taken before they are registered and never given to a record.

A step is `Blind` when it returns the same from alike sessions, into alike sessions, and
leaves alone the places of the names that were taken.  That is passed on by the rules of
translations (`blind_translateNode`).
-/
import TypedContract.Proofs.Translation.Over
import TypedContract.Proofs.Translation.Recordlike
import TypedContract.Proofs.Translation.Rules
import TypedContract.Proofs.Translation.Translator

namespace TypedContract

set_option autoImplicit false

open Translation

/-! ## Alike sessions -/

/-- The sessions differ in diagnostics, in the log and in the places of free names only. -/
structure Session.Alike (schemas : Node) (s s' : Session) : Prop where
  registry : s'.registry = s.registry
  rebuilding : s'.rebuilding = s.rebuilding
  hoisted : ∀ name, s.registry.isTaken name = true →
    s'.hoisted.lookup name = s.hoisted.lookup name
  reserves : ReservesComponents schemas s.registry

/-- The second session continues the first and remembers the same places of its names. -/
structure Session.KeptIn (s t : Session) : Prop where
  grows : s.Grows t
  hoisted : ∀ name, s.registry.isTaken name = true →
    t.hoisted.lookup name = s.hoisted.lookup name

theorem Session.Grows.isTaken {s t : Session} {name : String} (grows : s.Grows t)
    (taken : s.registry.isTaken name = true) : t.registry.isTaken name = true := by
  unfold Registry.isTaken at taken ⊢
  rw [Bool.or_eq_true] at taken ⊢
  rw [grows.reserved]
  exact taken.imp_left grows.contains

theorem Session.KeptIn.refl (s : Session) : s.KeptIn s := ⟨.refl s, fun _ _ => rfl⟩

theorem Session.KeptIn.trans {s t u : Session} (first : s.KeptIn t) (second : t.KeptIn u) :
    s.KeptIn u :=
  ⟨first.grows.trans second.grows, fun name taken =>
    (second.hoisted name (first.grows.isTaken taken)).trans (first.hoisted name taken)⟩

/-- The place of a free name may be noted. -/
theorem Session.KeptIn.hoisting {s : Session} {name : String} {place : Option Place}
    (free : s.registry.isTaken name = false) : s.KeptIn (Translation.hoisting s name place) := by
  refine ⟨.hoisting s name place, fun other taken => ?_⟩
  have apart : (other == name) = false := by
    rw [beq_eq_false_iff_ne]
    rintro rfl
    cases free.symm.trans taken
  exact (List.lookup_cons).trans (by rw [apart])

namespace Session.Alike

variable {schemas : Node} {s s' s'' t t' : Session} {name : String} {type : Ty}

theorem refl (reserves : ReservesComponents schemas s.registry) : s.Alike schemas s :=
  ⟨rfl, rfl, fun _ _ => rfl, reserves⟩

theorem symm (alike : s.Alike schemas s') : s'.Alike schemas s :=
  ⟨alike.registry.symm, alike.rebuilding.symm,
    fun name taken => (alike.hoisted name (alike.registry ▸ taken)).symm,
    alike.registry ▸ alike.reserves⟩

theorem trans (first : s.Alike schemas s') (second : s'.Alike schemas s'') :
    s.Alike schemas s'' :=
  ⟨second.registry.trans first.registry, second.rebuilding.trans first.rebuilding,
    fun name taken => (second.hoisted name (first.registry.symm ▸ taken)).trans
      (first.hoisted name taken), first.reserves⟩

/-- Names that begin to be built stay alike when their places are. -/
theorem begun (alike : s.Alike schemas s')
    (same : s'.hoisted.lookup name = s.hoisted.lookup name) :
    (Run.begun s name).Alike schemas (Run.begun s' name) where
  registry := congrArg (·.start name) alike.registry
  rebuilding := alike.rebuilding
  hoisted := by
    intro other taken
    by_cases own : other = name
    · subst own
      exact same
    · refine alike.hoisted other ?_
      rw [Registry.isTaken_iff] at taken ⊢
      simpa [Registry.taken, Run.begun, Registry.names, own] using taken
  reserves := alike.reserves

/-- A name that was being built may be given its type. -/
theorem finished (alike : s.Alike schemas s') (building : name ∈ s.registry.building)
    (absent : s.registry.get? name = none) :
    (Run.finished s name type).Alike schemas (Run.finished s' name type) where
  registry := congrArg (·.leave name (some type)) alike.registry
  rebuilding := alike.rebuilding
  hoisted := by
    intro other taken
    refine alike.hoisted other ?_
    have entries : (Run.finished s name type).registry.entries =
        s.registry.entries ++ [(name, type)] := Registry.entries_leave absent
    have stopped : (Run.finished s name type).registry.building =
        s.registry.building.filter (· != name) := Registry.building_leave
    have reserved : (Run.finished s name type).registry.reserved = s.registry.reserved :=
      Registry.reserved_leave
    rw [Registry.isTaken_iff] at taken ⊢
    simp only [Registry.taken, Registry.names, entries, stopped, reserved, List.map_append,
      List.map_cons, List.map_nil, List.mem_append, List.mem_singleton, List.mem_filter]
      at taken ⊢
    rcases taken with ((earlier | rfl) | inside) | kept
    · exact .inl (.inl earlier)
    · exact .inl (.inr building)
    · exact .inl (.inr inside.1)
    · exact .inr kept
  reserves := fun name held => alike.reserves name held

theorem hoisting {place : Option Place} (alike : s.Alike schemas s') :
    (hoisting s name place).Alike schemas (hoisting s' name place) := by
  refine ⟨alike.registry, alike.rebuilding, fun other taken => ?_, alike.reserves⟩
  simp only [Translation.hoisting, List.lookup_cons]
  cases other == name with
  | true => rfl
  | false => exact alike.hoisted other taken

theorem isHoisted_eq {place : Option Place} (alike : s.Alike schemas s') :
    isHoisted s' name place = isHoisted s name place := by
  unfold isHoisted
  rw [alike.registry]
  cases held : s.registry.contains name with
  | false => simp
  | true => rw [alike.hoisted name (by rw [Registry.isTaken, held]; rfl)]

end Session.Alike

/-! ## Blind steps -/

namespace Run

variable {schemas : Node} {α β : Type} {s t : Session}

/-- The step returns the same from alike sessions, into alike sessions, and keeps the places
of the names that were taken. -/
structure Blind (schemas : Node) (step : Run α) : Prop where
  keptIn : ∀ {s s' t : Session} {a : α}, s.Alike schemas s' → Returns step s a t →
    s.KeptIn t ∧ ∃ t', Returns step s' a t' ∧ t.Alike schemas t'

namespace Blind

/-- A step that leaves the session alone and looks at nothing that alike sessions differ in. -/
theorem still {step : Run α}
    (idle : ∀ {s s' t : Session} {a : α}, s.Alike schemas s' → Returns step s a t →
      s = t ∧ Returns step s' a s') : Blind schemas step := by
  refine ⟨fun {s s' t a} alike returned => ?_⟩
  obtain ⟨rfl, again⟩ := idle alike returned
  exact ⟨.refl s, s', again, alike⟩

theorem pure (a : α) : Blind schemas (Pure.pure a) :=
  still fun _ returned =>
    ⟨(returns_pure.1 returned).2, returns_pure.2 ⟨(returns_pure.1 returned).1, rfl⟩⟩

theorem registry : Blind schemas Run.registry :=
  still fun alike returned => ⟨(returns_registry.1 returned).2,
    returns_registry.2 ⟨alike.registry.trans (returns_registry.1 returned).1, rfl⟩⟩

theorem throw {fault : Fault} : Blind schemas (MonadExcept.throw fault : Run α) :=
  ⟨fun _ returned => absurd returned not_returns_throw⟩

theorem bind {step : Run α} {next : α → Run β} (first : Blind schemas step)
    (second : ∀ a, Blind schemas (next a)) : Blind schemas (step >>= next) := by
  refine ⟨fun {s s' t b} alike returned => ?_⟩
  obtain ⟨a, u, head, tail⟩ := returns_bind.1 returned
  obtain ⟨kept, u', head', alike'⟩ := first.keptIn alike head
  obtain ⟨kept', t', tail', alike''⟩ := (second a).keptIn alike' tail
  exact ⟨kept.trans kept', t', returns_bind.2 ⟨a, u', head', tail'⟩, alike''⟩

theorem read {result : Except Fault α} {next : α → Run β}
    (rest : ∀ a, result = .ok a → Blind schemas (next a)) :
    Blind schemas (lift result >>= next) := by
  refine ⟨fun {s s' t b} alike returned => ?_⟩
  obtain ⟨a, u, head, tail⟩ := returns_bind.1 returned
  obtain ⟨ok, rfl⟩ := returns_lift.1 head
  obtain ⟨kept, t', tail', alike'⟩ := (rest a ok).keptIn alike tail
  exact ⟨kept, t', returns_bind.2 ⟨a, s', returns_lift.2 ⟨ok, rfl⟩, tail'⟩, alike'⟩

theorem lift {result : Except Fault α} : Blind schemas (Run.lift result) :=
  still fun _ returned =>
    ⟨(returns_lift.1 returned).2, returns_lift.2 ⟨(returns_lift.1 returned).1, rfl⟩⟩

theorem report {code : Diagnostic.Code} {args : List String} (other : code ≠ .danglingReference) :
    Blind schemas (Run.report code args) := by
  refine ⟨fun {s s' t a} alike returned => ?_⟩
  obtain rfl := returns_report.1 returned
  exact ⟨⟨.reported s code args other, fun _ _ => rfl⟩, _, returns_report.2 rfl,
    alike.registry, alike.rebuilding, alike.hoisted, alike.reserves⟩

theorem note {level : Log.Level} {source : Log.Source} {message : String} :
    Blind schemas (Run.note level source message) := by
  refine ⟨fun {s s' t a} alike returned => ?_⟩
  obtain rfl := returns_note.1 returned
  have grows : s.Grows { s with log := s.log ++ [⟨level, source, message⟩] } :=
    ⟨List.prefix_rfl, rfl, rfl, rfl, List.suffix_rfl, fun _ _ absent => absent, rfl⟩
  exact ⟨⟨grows, fun _ _ => rfl⟩, _, returns_note.2 rfl, alike.registry, alike.rebuilding,
    alike.hoisted, alike.reserves⟩

/-- Building a name with a blind factory: the name begins to be built in both sessions, with
the same place, and is given its type in both. -/
theorem building {factory : Run Ty} (blind : Blind schemas factory) {s s' u : Session}
    {name : String} {type : Ty} (alike : s.Alike schemas s')
    (same : s'.hoisted.lookup name = s.hoisted.lookup name)
    (fresh : s.registry.contains name = false) (built : Returns factory (begun s name) type u) :
    s.KeptIn (finished u name type) ∧ ∃ u', Returns factory (begun s' name) type u' ∧
      (finished u name type).Alike schemas (finished u' name type) := by
  obtain ⟨kept, u', built', alike'⟩ := blind.keptIn (alike.begun same) built
  have building : name ∈ u.registry.building := kept.grows.building ▸ List.mem_cons_self
  have absent : u.registry.get? name = none :=
    kept.grows.waiting name List.mem_cons_self (Session.Grows.of_contains_false fresh).1
  refine ⟨⟨.registration fresh kept.grows, fun other taken => kept.hoisted other ?_⟩, u', built',
    alike'.finished building absent⟩
  rw [Registry.isTaken_iff] at taken ⊢
  simp only [Registry.taken, begun, Registry.names, Registry.entries_start,
    Registry.building_start, Registry.reserved_start, List.mem_append, List.mem_cons] at taken ⊢
  tauto

/-- A component name is reserved, so its place is the same in alike sessions. -/
theorem register {factory : Run Ty} {name : String} (held : schemas.value.holds name = .ok true)
    (blind : Blind schemas factory) : Blind schemas (Run.register name factory) := by
  refine ⟨fun {s s' t type} alike returned => ?_⟩
  rcases returns_register.1 returned with ⟨known, rfl⟩ | ⟨entered, u, built, rfl⟩
  · exact ⟨.refl s, s', returns_register.2 (.inl ⟨alike.registry ▸ known, rfl⟩), alike⟩
  · have taken : s.registry.isTaken name = true :=
      Registry.isTaken_iff.2 (List.mem_append_right _ (alike.reserves name held))
    obtain ⟨kept, u', built', alike'⟩ := blind.building alike (alike.hoisted name taken)
      (Registry.enter_eq_inr_iff.1 entered).1 built
    exact ⟨kept, _, returns_register.2 (.inr ⟨alike.registry ▸ entered, u', built', rfl⟩), alike'⟩

/-- A record is hoisted in both sessions, under one name, or in none of them. -/
theorem hoist {place : Option Place} {context : String} {record : String → Run Ty}
    (blind : ∀ name, Blind schemas (record name)) :
    Blind schemas (Translation.hoist place context record) := by
  refine ⟨fun {s s' t type} alike returned => ?_⟩
  rcases returns_hoist.1 returned with
    ⟨before, rfl, rfl⟩ | ⟨before, name, type, u, unique, rfl, built, rfl⟩
  · exact ⟨.refl s, s', returns_hoist.2 (.inl ⟨alike.isHoisted_eq.trans before, rfl, rfl⟩), alike⟩
  · have same : (hoisting s' name place).hoisted.lookup name =
        (hoisting s name place).hoisted.lookup name := by
      simp only [hoisting, List.lookup_cons, beq_self_eq_true]
    obtain ⟨kept, u', built', alike'⟩ := (blind name).building alike.hoisting same
      (hoisting_unused unique place).1 built
    refine ⟨.trans (.hoisting (unique ▸ Registry.uniqueName_free)) kept, _, ?_, alike'⟩
    exact returns_hoist.2 (.inr ⟨alike.isHoisted_eq.trans before, name, type, u',
      alike.registry ▸ unique, rfl, built', rfl⟩)

/-- A member is merged from the same type in both sessions, or from the same component
built anew in both. -/
theorem mergeSource {ties : Ties} {type : Ty}
    (blind : ∀ name, Blind schemas (ties.rebuild name)) :
    Blind schemas (Translation.mergeSource ties type) := by
  refine ⟨fun {s s' t source} alike returned => ?_⟩
  rcases returns_mergeSource.1 returned with
    ⟨stays, rfl, rfl⟩ | ⟨name, u, leads, rebuilds, rebuilt, rfl⟩
  · refine ⟨.refl s, s', returns_mergeSource.2 (.inl ⟨?_, ?_, rfl⟩), alike⟩
    · rw [alike.registry]
      intro name leads progress
      rw [alike.registry] at progress
      rw [alike.rebuilding]
      exact stays name leads progress
    · rw [alike.registry]
  · have begins : Session.Alike schemas { s with rebuilding := name :: s.rebuilding }
        { s' with rebuilding := name :: s'.rebuilding } :=
      ⟨alike.registry, congrArg (name :: ·) alike.rebuilding, alike.hoisted, alike.reserves⟩
    obtain ⟨kept, u', rebuilt', alike'⟩ := (blind name).keptIn begins rebuilt
    refine ⟨⟨.rebuilt rebuilds.2.2 kept.grows, kept.hoisted⟩, _, returns_mergeSource.2 (.inr
      ⟨name, u', alike.registry ▸ leads, ?_, rebuilt', rfl⟩), alike'.registry,
      congrArg (List.filter (· != name)) alike'.rebuilding, alike'.hoisted, alike'.reserves⟩
    unfold Rebuilds
    rw [alike.registry, alike.rebuilding]
    exact rebuilds

end Blind

end Run

/-! ## Translations -/

theorem Schema.read_true (schema : Schema) : schema.Read fun _ _ => True := by
  induction schema using Schema.induction with
  | step schema items properties additional members =>
      exact .mk ⟨trivial, trivial, trivial, trivial⟩ items properties additional members

namespace Translation

variable {schemas : Node}

/-- Ties whose components are registered and built anew blindly satisfy the rules. -/
theorem rules_blind {ties : Ties} (same : ties.schemas = schemas)
    (component : ∀ name, schemas.value.holds name = .ok true →
      Run.Blind schemas (ties.component name))
    (rebuild : ∀ name, Run.Blind schemas (ties.rebuild name)) :
    Rules schemas (fun _ : Unit => ties) (fun _ _ => True)
      fun _ step => Run.Blind schemas (step ()) where
  same := fun _ => same
  holds := fun _ => trivial
  atUse := fun _ _ => trivial
  pure := .pure
  bind := .bind
  read := fun _ => .read
  report := .report
  component := component _
  hoist := .hoist
  mergeSource := .mergeSource rebuild

/-- The ties of the program reach other components blindly. -/
theorem Ties.blind_within (bound : Nat) :
    (∀ name, schemas.value.holds name = .ok true →
      Run.Blind schemas ((Ties.within schemas bound).component name)) ∧
    ∀ name, Run.Blind schemas ((Ties.within schemas bound).rebuild name) := by
  induction bound with
  | zero => exact ⟨fun _ _ => .throw, fun _ => .throw⟩
  | succ bound ih =>
      obtain ⟨component, rebuild⟩ := ih
      have rules := rules_blind (Ties.within_sound schemas bound).same component rebuild
      have builds : ∀ (name : String) (schema : Schema),
          Run.Blind schemas (buildNamed (Ties.within schemas bound) name schema) :=
        fun name schema => rules.buildNamed schema.read_true
      refine ⟨fun name held => .read fun node _ => ?_, fun name => .read fun node _ => ?_⟩
      · exact .register held (.read fun schema _ => builds name schema)
      · exact .read fun schema _ => builds name schema

end Translation

/-- The translator of a document does not tell alike sessions apart. -/
theorem Translator.blind_translateNode {document : Node} {translator : Translator}
    {s t : Session} (created : Run.Returns (create document) s translator t) {node : Node}
    {context : String} :
    Run.Blind translator.schemas (translator.translateNode node context) := by
  obtain ⟨component, rebuild⟩ := Ties.blind_within (componentBound translator.schemas)
  rw [← (returns_create created).2.1] at component rebuild
  exact .read fun schema _ => (rules_blind rfl component rebuild).translate schema.read_true context

end TypedContract
