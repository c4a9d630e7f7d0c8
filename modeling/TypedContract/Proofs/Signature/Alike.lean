/-
# TypedContract.Proofs.Signature.Alike -- a failed operation leaves no trace

The builder of signatures reaches the session through the translator and through the
registry only, so it does not tell alike sessions apart (`Run.Blind.rules`).  An
operation that is given up has its types dropped from the registry but stays in the table
of hoisted records: the session it leaves is another one than it was begun in, and alike
to it (`alike_of_build_none`).  Hence calls that fail can be left out of any sequence of
calls, and the others return the same signatures and the same registry
(`buildAll_withoutFailed`).
-/
import TypedContract.Proofs.Signature.Closed
import TypedContract.Proofs.Signature.Steps
import TypedContract.Proofs.Translation.Alike

namespace TypedContract

set_option autoImplicit false

open Translation

variable {schemas : Node}

/-- Blindness satisfies the rules for the building of signatures, whatever the types. -/
theorem Run.Blind.rules : Run.Rules fun _ _ step _ => Run.Blind schemas step where
  pure := fun _ => .pure _
  leaf := fun _ => .pure _
  bind := .bind
  lift := .lift
  registry := .registry
  throw := .throw
  note := .note
  report := .report

namespace SignatureBuilder

variable {builder : SignatureBuilder}

/-! ## Operations that are given up -/

section

variable (translates : ∀ {node : Node} {context : String},
    Run.Blind schemas (builder.translator.translateNode node context))
  {functionName method path : String} {operation shared : Node} {s s' t : Session}

include translates

/-- The parameters of an operation are found blindly. -/
theorem blind_candidates {context : String} :
    Run.Blind schemas (builder.candidates operation shared context).run := by
  have blind : Mapping.KeepsTo (fun _ _ step _ => Run.Blind schemas step) []
      (builder.candidates operation shared context) Parameter.types :=
    Run.Blind.rules.candidates translates
  exact blind

/-- The session that an operation leaves when it is given up is alike to the one it was
begun in: the registry is brought back, and what is left in the table of hoisted records
is about names that are free. -/
theorem alike_of_build_none (reserves : ReservesComponents schemas s.registry)
    (returned : Run.Returns (builder.build functionName method path operation shared) s none t) :
    s.Alike schemas t := by
  obtain ⟨u, log, operationId, searched, -, rfl⟩ := returns_build_none returned
  obtain ⟨kept, -⟩ := (blind_candidates translates).keptIn (.refl reserves) searched
  exact ⟨kept.grows.registry_rollback, kept.grows.rebuilding, kept.hoisted, reserves⟩

/-- An operation returns the same from alike sessions, into alike sessions. -/
theorem exists_alike_build (alike : s.Alike schemas s') {signature? : Option Signature}
    (returned : Run.Returns (builder.build functionName method path operation shared) s
      signature? t) :
    ∃ t', Run.Returns (builder.build functionName method path operation shared) s'
      signature? t' ∧ t.Alike schemas t' := by
  have first := returned
  unfold build at returned
  simp only [Run.returns_bind, Run.returns_registry] at returned
  obtain ⟨r, u, ⟨rfl, rfl⟩, found, v, searched, rest⟩ := returned
  obtain ⟨-, v', searched', alike'⟩ := (blind_candidates translates).keptIn alike searched
  cases found with
  | none =>
      simp only [Run.returns_bind, Run.returns_lift, Run.returns_report, Run.returns_pure] at rest
      obtain ⟨nothing, w, -, operationId, x, ⟨named, rfl⟩, label, y, ⟨worded, rfl⟩, -, z, rfl, rfl,
        rfl⟩ := rest
      obtain ⟨log, rolled⟩ := Run.exists_rollback s'.registry.checkpoint v'
      obtain ⟨t', again⟩ : ∃ t',
          Run.Returns (builder.build functionName method path operation shared) s' none t' :=
        ⟨_, Run.returns_bind.2 ⟨_, s', Run.returns_registry.2 ⟨rfl, rfl⟩,
          Run.returns_bind.2 ⟨none, v', searched', Run.returns_bind.2 ⟨(), _, rolled,
            Run.returns_bind.2 ⟨operationId, _, Run.returns_lift.2 ⟨named, rfl⟩,
              Run.returns_bind.2 ⟨label, _, Run.returns_lift.2 ⟨worded, rfl⟩,
                Run.returns_bind.2 ⟨(), _, Run.returns_report.2 rfl,
                  Run.returns_pure.2 ⟨rfl, rfl⟩⟩⟩⟩⟩⟩⟩⟩
      refine ⟨t', again, ?_⟩
      -- both runs were rolled back to where they started
      have back := alike_of_build_none translates alike.reserves first
      have back' := alike_of_build_none translates (alike.registry ▸ alike.reserves) again
      exact back.symm.trans (alike.trans back')
  | some candidates =>
      obtain ⟨-, t', rest', alike''⟩ := (Run.Blind.rules.signature translates
        fun _ member => member).keptIn alike' rest
      exact ⟨t', Run.returns_bind.2 ⟨_, s', Run.returns_registry.2 ⟨rfl, rfl⟩,
        Run.returns_bind.2 ⟨some candidates, v', searched', rest'⟩⟩, alike''⟩

end

/-! ## Sequences of calls -/

/-- A function name and the operation that is built under it. -/
abbrev Call := String × Contract.Operation

/-- The signatures of operations built one after the other. -/
def buildAll (builder : SignatureBuilder) (calls : List Call) : Run (List (Option Signature)) :=
  calls.mapM fun call =>
    builder.build call.1 call.2.method call.2.path call.2.node call.2.shared

/-- The second calls are the first without some of those that came to no signature. -/
inductive WithoutFailed :
    List (Call × Option Signature) → List (Call × Option Signature) → Prop where
  | nil : WithoutFailed [] []
  | keep {call : Call} {result : Option Signature} {all rest : List (Call × Option Signature)}
      (others : WithoutFailed all rest) :
      WithoutFailed ((call, result) :: all) ((call, result) :: rest)
  | leaveOut {call : Call} {all rest : List (Call × Option Signature)}
      (others : WithoutFailed all rest) : WithoutFailed ((call, none) :: all) rest

/-- Of calls begun in alike sessions, those that fail can be left out on one side. -/
theorem exists_alike_buildAll
    (translates : ∀ {node : Node} {context : String},
      Run.Blind schemas (builder.translator.translateNode node context))
    {all rest : List (Call × Option Signature)} (without : WithoutFailed all rest)
    {s s' t : Session} (alike : s.Alike schemas s')
    (returned : Run.Returns (builder.buildAll (all.map Prod.fst)) s (all.map Prod.snd) t) :
    ∃ t', Run.Returns (builder.buildAll (rest.map Prod.fst)) s' (rest.map Prod.snd) t' ∧
      t.Alike schemas t' := by
  induction without generalizing s s' with
  | nil =>
      obtain ⟨-, rfl⟩ := Run.returns_pure.1 returned
      exact ⟨s', Run.returns_pure.2 ⟨rfl, rfl⟩, alike⟩
  | keep others ih =>
      simp only [buildAll, List.map_cons, List.mapM_cons, Run.returns_bind, Run.returns_pure,
        List.cons.injEq] at returned ⊢
      obtain ⟨_, u, own, _, v, rest, ⟨rfl, rfl⟩, rfl⟩ := returned
      obtain ⟨u', own', alike'⟩ := exists_alike_build translates alike own
      obtain ⟨v', rest', alike''⟩ := ih alike' rest
      exact ⟨v', ⟨_, u', own', _, v', rest', ⟨rfl, rfl⟩, rfl⟩, alike''⟩
  | leaveOut others ih =>
      simp only [buildAll, List.map_cons, List.mapM_cons, Run.returns_bind, Run.returns_pure,
        List.cons.injEq] at returned
      obtain ⟨_, u, own, _, v, rest, ⟨rfl, rfl⟩, rfl⟩ := returned
      have back := alike_of_build_none translates alike.reserves own
      exact ih (back.symm.trans alike) rest

/-- Once all components are registered, calls that fail can be left out of a sequence of
calls: the others return the same, and the registry is the same in the end. -/
theorem buildAll_withoutFailed {document : Node} {s t u v : Session} {done : Unit}
    {all rest : List (Call × Option Signature)}
    (created : Run.Returns (Translator.create document) s builder.translator t)
    (registered : Run.Returns builder.translator.components t done u)
    (returned : Run.Returns (builder.buildAll (all.map Prod.fst)) u (all.map Prod.snd) v)
    (without : WithoutFailed all rest) :
    ∃ w, Run.Returns (builder.buildAll (rest.map Prod.fst)) u (rest.map Prod.snd) w ∧
      w.registry = v.registry := by
  have object := Translator.object_of_components created registered
  have each : ∀ {name : String} {s : Session} {type : Ty} {t : Session},
      ReservesComponents builder.translator.schemas s.registry →
      Run.Returns (builder.translator.component name) s type t →
      ReservesComponents builder.translator.schemas t.registry := fun kept own =>
    kept.grows ((Translator.sound_create created).component own).grows
  have reserves : ReservesComponents builder.translator.schemas u.registry :=
    Translator.components_induction each registered (Translator.reserves_create created object)
  obtain ⟨w, again, alike⟩ := exists_alike_buildAll
    (Translator.blind_translateNode created) without (.refl reserves) returned
  exact ⟨w, again, alike.registry⟩

/-- An operation that is given up after a record was hoisted for it, and one that hoists
another record under the same name. -/
def petsContract : Json :=
  let record (field : String) : Json := .object [("type", .str "object"),
    ("properties", .object [(field, .object [("type", .str "string")])])]
  let filtered (place : String) (schema : Json) : Json := .object [("get", .object [
    ("parameters", .list [.object [("name", .str "filter"), ("in", .str place),
      ("schema", schema)]])])]
  .object [("paths", .object [
    ("/pets/{filter}", filtered "path" (record "key")),
    ("/pets", filtered "query" (record "word"))])]

/-- The operations of a document, all built under one name. -/
def buildUnder (name : String) (document : Node) :
    Run (Translator × List Call × List (Option Signature)) := do
  let translator ← Translator.create document
  translator.components
  let operations ← Run.lift (Contract.operations document)
  let calls := operations.map fun operation => (name, operation)
  return (translator, calls, ← buildAll { document, translator } calls)

/-- Of two calls, the first failed and the second did not, and both hoisted one name. -/
def hoistsTwice (results : List Call × List (Option Signature)) (s : Session) : Bool :=
  match results with
  | ([_, _], [none, some _]) => s.hoisted.map Prod.fst == ["PetsFilter", "PetsFilter"]
  | _ => false

theorem buildAll_withoutFailed_pets : ∃ (builder : SignatureBuilder) (t u v : Session)
    (failed kept : Call) (signature : Signature),
    Run.Returns (Translator.create (.root 0 petsContract)) {} builder.translator t ∧
    Run.Returns builder.translator.components t () u ∧
    Run.Returns (builder.buildAll [failed, kept]) u [none, some signature] v ∧
    v.hoisted.map Prod.fst = ["PetsFilter", "PetsFilter"] ∧
    WithoutFailed [(failed, none), (kept, some signature)] [(kept, some signature)] ∧
    ∃ w, Run.Returns (builder.buildAll [kept]) u [some signature] w ∧ w.registry = v.registry := by
  have ok : ((buildUnder "pets" (.root 0 petsContract)).passes {} fun found v =>
      hoistsTwice found.2 v) = true := by decide +kernel
  obtain ⟨⟨translator, calls, results⟩, v, returned, shape⟩ := Run.exists_returns_of ok
  unfold hoistsTwice at shape
  split at shape
  · rename_i failed kept signature same
    cases same
    simp only [buildUnder, Run.returns_bind, Run.returns_lift, Run.returns_pure,
      Prod.mk.injEq] at returned
    obtain ⟨_, t, created, done, u, registered, operations, _, ⟨-, rfl⟩, _, _, built,
      ⟨rfl, calls, rfl⟩, rfl⟩ := returned
    rw [calls] at built
    have without : WithoutFailed [(failed, none), (kept, some signature)]
        [(kept, some signature)] := .leaveOut (.keep .nil)
    exact ⟨⟨.root 0 petsContract, _, {}⟩, t, u, _, failed, kept, signature, created, registered,
      built, eq_of_beq shape, without, buildAll_withoutFailed created registered built without⟩
  · cases shape

end SignatureBuilder

end TypedContract
