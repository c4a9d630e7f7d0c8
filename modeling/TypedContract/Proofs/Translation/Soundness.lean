/-
# TypedContract.Proofs.Translation.Soundness -- what the program returns has a derivation

Ties are sound when what they register and rebuild has a derivation.  Over sound ties
each function of the translation has one lemma that finds the derivation of what it
returns, by the recursion of the function itself; the ties of the program are sound
for every bound (`Ties.within_sound`).
-/
import TypedContract.Proofs.Translation.Derivation
import TypedContract.Proofs.Registry.Entries

namespace TypedContract.Translation

set_option autoImplicit false

open Schema

/-- The ties reach other components by derivations only. -/
structure Ties.Sound (schemas : Node) (ties : Ties) : Prop where
  same : ties.schemas = schemas
  component : ∀ {name : String} {s t : Session} {type : Ty},
    Run.Returns (ties.component name) s type t → Derives schemas (.component name s type t)
  rebuild : ∀ {name : String} {s t : Session} {type : Ty},
    Run.Returns (ties.rebuild name) s type t →
      ∃ schema, componentSchema schemas name = .ok schema ∧
        Derives schemas (.named name schema s type t)

section

set_option linter.unusedSectionVars false

variable {schemas : Node} {ties : Ties} (sound : ties.Sound schemas)

include sound

theorem derives_reference {schema : Schema} {context : String} {s t : Session} {type : Ty}
    (kind : schema.facts.kind = .reference)
    (returned : Run.Returns (reference ties schema.facts) s type t) :
    Derives schemas (.bare schema context s type t) := by
  -- a reference in a foreign form and one to no component end alike
  have nowhere : target? schemas schema.facts = .ok none →
      Run.Returns (do
        Run.report .unresolvedReference [schema.facts.ref.plain]
        return Ty.unknown ("unresolved " ++ schema.facts.ref.plain)) s type t →
      Derives schemas (.bare schema context s type t) := by
    intro none h
    simp only [Run.returns_bind, Run.returns_report, Run.returns_pure] at h
    obtain ⟨-, u, rfl, rfl, rfl⟩ := h
    exact .unresolved kind none
  unfold reference at returned
  simp only [Run.returns_bind, Run.returns_lift] at returned
  obtain ⟨name?, u, ⟨named, rfl⟩, returned⟩ := returned
  cases name? with
  | none =>
      refine nowhere ?_ returned
      simp only [target?, named]
      rfl
  | some name =>
      simp only [Run.returns_bind, Run.returns_lift, sound.same] at returned
      obtain ⟨held, u, ⟨holds, rfl⟩, returned⟩ := returned
      have leads : target? schemas schema.facts = .ok (if held then some name else none) := by
        simp only [target?, named, holds, bind, Except.bind]
        rfl
      cases held with
      | false => exact nowhere leads (by simpa using returned)
      | true =>
          simp only [Bool.not_true, Bool.false_eq_true, if_false, Run.returns_bind,
            Run.returns_lift] at returned
          obtain ⟨known, u, registered, nilable, v, ⟨atUse, rfl⟩, returned⟩ := returned
          have shape : type = referenceType nilable name ∧ u = t := by
            cases nilable <;> simpa [referenceType, eq_comm] using returned
          obtain ⟨rfl, rfl⟩ := shape
          exact .reference kind leads (sound.component registered) atUse

omit sound in
theorem derives_unsupported {schema : Schema} {context : String} {s t : Session} {type : Ty}
    (kind : schema.facts.kind = .any)
    (returned : Run.Returns (unsupported schema.facts context) s type t) :
    Derives schemas (.bare schema context s type t) := by
  unfold unsupported at returned
  cases declared : schema.facts.declaredType with
  | none =>
      rw [declared] at returned
      obtain ⟨rfl, rfl⟩ := Run.returns_pure.1 returned
      exact .any kind declared
  | some text =>
      rw [declared] at returned
      simp only [Run.returns_bind, Run.returns_report, Run.returns_pure] at returned
      obtain ⟨-, u, rfl, rfl, rfl⟩ := returned
      exact .unsupported kind declared

omit sound in
theorem derives_hoist {schema : Schema} {context : String} {s t : Session} {type : Ty}
    {record : String → Run Ty}
    (kind : schema.facts.kind = .object) (properties : schema.properties ≠ [])
    (contextual : context ≠ "")
    (inside : ∀ {name : String} {s t : Session} {type : Ty},
      Run.Returns (record name) s type t → ∃ fields text,
        Derives schemas
          (.fields (some name) schema.facts.required schema.properties s fields t) ∧
        strip schema.facts.description = .ok text ∧ type = .record (some name) fields text)
    (returned : Run.Returns (hoist schema.facts.node.place context record) s type t) :
    Derives schemas (.bare schema context s type t) := by
  unfold hoist at returned
  rw [Run.returns_bind] at returned
  obtain ⟨u, v, started, returned⟩ := returned
  obtain ⟨rfl, rfl⟩ := Run.returns_get.1 started
  cases before : isHoisted s context schema.facts.node.place with
  | true =>
      rw [before, if_pos rfl] at returned
      obtain ⟨rfl, rfl⟩ := Run.returns_pure.1 returned
      exact .hoistedBefore kind properties contextual before
  | false =>
      rw [before] at returned
      simp only [Bool.false_eq_true, if_false, Run.returns_bind, Run.returns_modify,
        Run.returns_register, Run.returns_pure] at returned
      obtain ⟨-, u, rfl, known, v, registered, rfl, rfl⟩ := returned
      have free : s.registry.contains (s.registry.uniqueName context) = false :=
        Registry.uniqueName_spec.1
      -- the new name is in no use, so its registration builds the record
      rcases registered with ⟨found, -⟩ | ⟨-, w, built, rfl⟩
      · have entered := Registry.enter_eq_inr_iff.2 ⟨free, rfl⟩
        rw [entered] at found
        cases found
      · obtain ⟨fields, text, derived, described, rfl⟩ := inside built
        exact .hoisted kind properties contextual before rfl derived described

theorem derives_mergeSource {type source : Ty} {s t : Session}
    (returned : Run.Returns (mergeSource ties type) s source t) :
    Derives schemas (.source type s source t) := by
  unfold mergeSource at returned
  simp only [Run.returns_bind, Run.returns_registry] at returned
  obtain ⟨r, u, ⟨rfl, rfl⟩, returned⟩ := returned
  -- in all branches but one the member is merged as what it resolves to
  have settles : (∀ name, s.registry.resolve (bareMember type) = .reference name →
        ¬ Rebuilds schemas s name) →
      source = s.registry.resolve (bareMember type) ∧ s = t →
      Derives schemas (.source type s source t) := by
    rintro stays ⟨rfl, rfl⟩
    exact .settled stays
  split at returned
  · rename_i name meets
    simp only [Run.returns_bind, Run.returns_get, sound.same] at returned
    obtain ⟨u, v, ⟨rfl, rfl⟩, returned⟩ := returned
    cases progress : s.registry.inProgress name with
    | false =>
        simp only [progress, Bool.not_false, if_true, Run.returns_pure] at returned
        refine settles (fun other same rebuilds => ?_) ⟨returned.1.symm, returned.2⟩
        cases meets.symm.trans same
        cases progress.symm.trans rebuilds.1
    | true =>
        simp only [progress, Bool.not_true, Bool.false_eq_true, if_false, Run.returns_bind,
          Run.returns_lift] at returned
        obtain ⟨held, v, ⟨holds, rfl⟩, returned⟩ := returned
        cases guard : !held || s.rebuilding.contains name with
        | true =>
            rw [guard, if_pos rfl] at returned
            obtain ⟨rfl, rfl⟩ := Run.returns_pure.1 returned
            refine settles (fun other same rebuilds => ?_) ⟨rfl, rfl⟩
            cases meets.symm.trans same
            obtain ⟨-, holds', apart⟩ := rebuilds
            cases holds.symm.trans holds'
            rw [apart] at guard
            cases guard
        | false =>
            obtain ⟨rfl, apart⟩ : held = true ∧ s.rebuilding.contains name = false := by
              simpa using guard
            simp only [guard, Bool.false_eq_true, if_false, Run.returns_bind,
              Run.returns_modify, Run.returns_afterwards] at returned
            obtain ⟨-, v, rfl, w, rebuilt, rfl⟩ := returned
            obtain ⟨schema, parsed, derived⟩ := sound.rebuild rebuilt
            exact .rebuilt meets ⟨progress, holds, apart⟩ parsed derived
  · rename_i elsewhere
    obtain ⟨rfl, rfl⟩ := Run.returns_pure.1 returned
    exact settles (fun name same => absurd same (elsewhere name)) ⟨rfl, rfl⟩

theorem derives_mapM_mergeSource {types sources : List Ty} {s t : Session}
    (returned : Run.Returns (types.mapM (mergeSource ties)) s sources t) :
    Derives schemas (.sources types s sources t) := by
  induction types generalizing s sources with
  | nil =>
      obtain ⟨rfl, rfl⟩ := Run.returns_pure.1 returned
      exact .sourcesNil
  | cons type types ih =>
      simp only [List.mapM_cons, Run.returns_bind, Run.returns_pure] at returned
      obtain ⟨source, u, head, rest, v, tail, rfl, rfl⟩ := returned
      exact .sourcesCons (derives_mergeSource sound head) (ih tail)

theorem derives_combine {facts : Facts} {name : Option String} {types : List Ty} {type : Ty}
    {s t : Session} (returned : Run.Returns (combine ties facts name types) s type t) :
    Derives schemas (.combined facts name types s type t) := by
  unfold combine at returned
  rw [Run.returns_bind] at returned
  obtain ⟨sources, u, merged, returned⟩ := returned
  have derived := derives_mapM_mergeSource sound merged
  cases records : !sources.isEmpty && sources.all Ty.isRecord with
  | true =>
      simp only [records, if_true, Run.returns_bind, Run.returns_lift, Run.returns_pure] at returned
      obtain ⟨text, v, ⟨described, rfl⟩, rfl, rfl⟩ := returned
      exact .merged derived records described
  | false =>
      simp only [records, Bool.false_eq_true, if_false] at returned
      split at returned
      · obtain ⟨rfl, rfl⟩ := Run.returns_pure.1 returned
        exact .wrapped derived records
      · rename_i several
        simp only [Run.returns_bind, Run.returns_report, Run.returns_pure] at returned
        obtain ⟨-, v, rfl, rfl, rfl⟩ := returned
        refine .refused derived records fun single => ?_
        obtain ⟨only, rfl⟩ := List.length_eq_one_iff.1 single
        exact several only rfl

mutual

/-- The program's translation of a schema has a derivation. -/
theorem derives_translate : ∀ {schema : Schema} {context : String} {s t : Session} {type : Ty},
    Run.Returns (translate ties schema context) s type t →
      Derives schemas (.schema schema context s type t)
  | .mk facts items properties additional members, context, s, t, type, returned => by
      -- whatever the kind, the nil is added at the end
      have finish : ∀ {step : Run Ty},
          (∀ {inner : Ty}, Run.Returns step s inner t →
            Derives schemas (.bare (.mk facts items properties additional members) context s inner t)) →
          Run.Returns (do return withNil facts.nullable (← step)) s type t →
          Derives schemas
            (.schema (.mk facts items properties additional members) context s type t) := by
        intro step bare returned
        simp only [Run.returns_bind, Run.returns_pure] at returned
        obtain ⟨inner, u, made, rfl, rfl⟩ := returned
        exact .nilable (bare made)
      have scalarCase : isScalarKind facts.kind = true → ∀ {inner : Ty},
          Run.Returns (Run.lift (scalar facts)) s inner t →
          Derives schemas
            (.bare (.mk facts items properties additional members) context s inner t) := by
        intro kind inner made
        obtain ⟨typed, rfl⟩ := Run.returns_lift.1 made
        exact .scalar kind typed
      unfold translate at returned
      cases kind : facts.kind with
      | reference =>
          rw [kind] at returned
          exact finish (fun made => derives_reference sound kind made) returned
      | array =>
          rw [kind] at returned
          cases items with
          | none =>
              refine finish (fun made => ?_) returned
              obtain ⟨rfl, rfl⟩ := Run.returns_pure.1 made
              exact .untyped kind rfl
          | some item =>
              refine finish (fun made => ?_) returned
              obtain ⟨element, inside, rfl⟩ := Run.returns_map.1 made
              exact .array kind rfl (derives_translate inside)
      | object =>
          rw [kind] at returned
          cases properties with
          | nil =>
              cases additional with
              | none =>
                  refine finish (fun made => ?_) returned
                  obtain ⟨rfl, rfl⟩ := Run.returns_pure.1 made
                  exact .openMap kind rfl rfl
              | some value =>
                  refine finish (fun made => ?_) returned
                  obtain ⟨element, inside, rfl⟩ := Run.returns_map.1 made
                  exact .map kind rfl rfl (derives_translate inside)
          | cons property properties =>
              have record : ∀ {name : Option String} {s t : Session} {type : Ty},
                  Run.Returns (do
                    let fields ← translateFields ties name facts.required (property :: properties)
                    return .record name fields (← Run.lift (strip facts.description))) s type t →
                  ∃ fields text,
                    Derives schemas
                      (.fields name facts.required (property :: properties) s fields t) ∧
                    strip facts.description = .ok text ∧ type = .record name fields text := by
                intro name s t type built
                simp only [Run.returns_bind, Run.returns_lift, Run.returns_pure] at built
                obtain ⟨fields, u, inside, text, v, ⟨described, rfl⟩, rfl, rfl⟩ := built
                exact ⟨fields, text, derives_translateFields inside, described, rfl⟩
              by_cases bare : context = ""
              · subst bare
                refine finish (fun made => ?_) returned
                obtain ⟨fields, text, inside, described, rfl⟩ := record made
                exact .record kind (List.cons_ne_nil _ _) inside described
              · simp only [List.isEmpty_cons, Bool.false_eq_true, if_false, beq_iff_eq,
                  if_neg bare] at returned
                exact finish (fun made =>
                  derives_hoist kind (List.cons_ne_nil _ _) bare record made) returned
      | union =>
          rw [kind] at returned
          refine finish (fun made => ?_) returned
          obtain ⟨types, inside, rfl⟩ := Run.returns_map.1 made
          exact .union kind (derives_translateMembers inside)
      | allOf =>
          rw [kind] at returned
          refine finish (fun made => ?_) returned
          obtain ⟨types, v, inside, merged⟩ := Run.returns_bind.1 made
          exact .allOf kind (derives_translateTyped inside) (derives_combine sound merged)
      | any =>
          rw [kind] at returned
          exact finish (fun made => derives_unsupported kind made) returned
      | string => rw [kind] at returned scalarCase; exact finish (scalarCase rfl) returned
      | number => rw [kind] at returned scalarCase; exact finish (scalarCase rfl) returned
      | integer => rw [kind] at returned scalarCase; exact finish (scalarCase rfl) returned
      | boolean => rw [kind] at returned scalarCase; exact finish (scalarCase rfl) returned

theorem derives_translateMembers : ∀ {members : List Schema} {context : String} {i : Nat}
    {s t : Session} {types : List Ty},
    Run.Returns (translateMembers ties context i members) s types t →
      Derives schemas (.each (unionParts context i members) s types t)
  | [], context, i, s, t, types, returned => by
      obtain ⟨rfl, rfl⟩ := Run.returns_pure.1 returned
      exact .eachNil
  | member :: rest, context, i, s, t, types, returned => by
      unfold translateMembers at returned
      simp only [Run.returns_bind, Run.returns_pure] at returned
      obtain ⟨type, u, head, more, v, tail, rfl, rfl⟩ := returned
      exact .eachCons (derives_translate head) (derives_translateMembers tail)

theorem derives_translateTyped : ∀ {members : List Schema} {name : Option String} {i : Nat}
    {s t : Session} {types : List Ty},
    Run.Returns (translateTyped ties name i members) s types t →
      Derives schemas (.each (typedParts name i members) s types t)
  | [], name, i, s, t, types, returned => by
      obtain ⟨rfl, rfl⟩ := Run.returns_pure.1 returned
      exact .eachNil
  | member :: rest, name, i, s, t, types, returned => by
      unfold translateTyped at returned
      cases note : member.isNote with
      | true =>
          rw [note, if_pos rfl] at returned
          have inside := derives_translateTyped returned
          rwa [typedParts, List.filter_cons_of_neg (by simp [note])]
      | false =>
          simp only [note, Bool.false_eq_true, if_false, Run.returns_bind,
            Run.returns_pure] at returned
          obtain ⟨type, u, head, more, v, tail, rfl, rfl⟩ := returned
          rw [typedParts, List.filter_cons_of_pos (by simp [note])]
          exact .eachCons (derives_translate head) (derives_translateTyped tail)

theorem derives_translateFields : ∀ {properties : List (String × Schema)}
    {name : Option String} {required : List Json} {s t : Session} {fields : List (Field Ty)},
    Run.Returns (translateFields ties name required properties) s fields t →
      Derives schemas (.fields name required properties s fields t)
  | [], name, required, s, t, fields, returned => by
      obtain ⟨rfl, rfl⟩ := Run.returns_pure.1 returned
      exact .fieldsNil
  | (property, schema) :: rest, name, required, s, t, fields, returned => by
      unfold translateFields at returned
      simp only [Run.returns_bind, Run.returns_lift, Run.returns_pure] at returned
      obtain ⟨type, u, head, text, v, ⟨described, rfl⟩, more, w, tail, rfl, rfl⟩ := returned
      exact .fieldsCons (derives_translate head) described (derives_translateFields tail)

end

theorem derives_numbered {name : String} {members : List (Schema × Nat)} {s t : Session}
    {types : List Ty}
    (returned : Run.Returns
      (members.mapM fun part => translate ties part.1 (name ++ toString part.2)) s types t) :
    Derives schemas
      (.each (members.map fun part => (part.1, name ++ toString part.2)) s types t) := by
  induction members generalizing s types with
  | nil =>
      obtain ⟨rfl, rfl⟩ := Run.returns_pure.1 returned
      exact .eachNil
  | cons member members ih =>
      simp only [List.mapM_cons, Run.returns_bind, Run.returns_pure] at returned
      obtain ⟨type, u, head, rest, v, tail, rfl, rfl⟩ := returned
      exact .eachCons (derives_translate sound head) (ih tail)

/-- The program's type of a component has a derivation. -/
theorem derives_buildNamed {name : String} {schema : Schema} {s t : Session} {type : Ty}
    (returned : Run.Returns (buildNamed ties name schema) s type t) :
    Derives schemas (.named name schema s type t) := by
  unfold buildNamed at returned
  -- a component of any other kind is translated as if it stood inline
  have other : (schema.facts.kind = .object → schema.properties = []) →
      schema.facts.kind ≠ .allOf → schema.facts.kind ≠ .union →
      Run.Returns (translate ties schema name) s type t →
      Derives schemas (.named name schema s type t) := fun record merge union inside =>
    .namedOther record merge union (derives_translate sound inside)
  cases kind : schema.kind with
  | object =>
      rw [kind] at returned
      cases bare : schema.properties.isEmpty with
      | true =>
          simp only [bare, if_true] at returned
          exact other (fun _ => List.isEmpty_iff.1 bare) (by rw [← Schema.kind, kind]; decide)
            (by rw [← Schema.kind, kind]; decide) returned
      | false =>
          simp only [bare, Bool.false_eq_true, if_false, recordOf, Run.returns_bind,
            Run.returns_lift, Run.returns_pure] at returned
          obtain ⟨fields, u, inside, text, v, ⟨described, rfl⟩, rfl, rfl⟩ := returned
          exact .namedRecord kind (by simpa using bare) (derives_translateFields sound inside)
            described
  | allOf =>
      rw [kind] at returned
      obtain ⟨types, u, inside, merged⟩ := Run.returns_bind.1 returned
      exact .namedMerge kind (derives_translateTyped sound inside) (derives_combine sound merged)
  | union =>
      rw [kind] at returned
      obtain ⟨types, u, inside, finish⟩ := Run.returns_bind.1 returned
      have derived := derives_numbered sound inside
      have shape : namedUnion name schema.facts.nullable types = type ∧ u = t := by
        unfold namedUnion
        dsimp only at finish
        split at finish
        · rename_i adds
          rw [if_pos adds]
          exact Run.returns_pure.1 finish
        · rename_i keeps
          rw [if_neg keeps]
          exact Run.returns_pure.1 finish
      obtain ⟨rfl, rfl⟩ := shape
      exact .namedUnion kind derived
  | _ =>
      rw [kind] at returned
      refine other ?_ ?_ ?_ returned <;> rw [← Schema.kind, kind] <;> simp

end

/-- Ties of any bound reach other components by derivations only. -/
theorem Ties.within_sound (schemas : Node) (bound : Nat) :
    (Ties.within schemas bound).Sound schemas := by
  induction bound with
  | zero =>
      exact ⟨rfl, fun returned => absurd returned Run.not_returns_throw,
        fun returned => absurd returned Run.not_returns_throw⟩
  | succ bound ih =>
      refine ⟨rfl, fun {name s t type} returned => ?_, fun {name s t type} returned => ?_⟩
      · obtain ⟨node, u, required, registered⟩ := Run.returns_bind.1 returned
        obtain ⟨found, rfl⟩ := Run.returns_lift.1 required
        rcases Run.returns_register.1 registered with ⟨known, rfl⟩ | ⟨entered, u, built, rfl⟩
        · exact .known known
        · obtain ⟨schema, v, parsing, inside⟩ := Run.returns_bind.1 built
          obtain ⟨parsed, rfl⟩ := Run.returns_lift.1 parsing
          refine .built (Registry.enter_eq_inr_iff.1 entered).1 ?_ (derives_buildNamed ih inside)
          rw [componentSchema, found]
          exact parsed
      · obtain ⟨node, u, required, built⟩ := Run.returns_bind.1 returned
        obtain ⟨found, rfl⟩ := Run.returns_lift.1 required
        obtain ⟨schema, v, parsing, inside⟩ := Run.returns_bind.1 built
        obtain ⟨parsed, rfl⟩ := Run.returns_lift.1 parsing
        refine ⟨schema, ?_, derives_buildNamed ih inside⟩
        rw [componentSchema, found]
        exact parsed

end TypedContract.Translation
