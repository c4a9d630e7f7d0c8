/-
# TypedContract.Proofs.Signature.Canonical -- the names that signatures bring about

Each parameter of an operation has its canonical name and the identifier made from it,
whatever part of the operation it stands for (`ensures_candidates`).  Of the parameters with
one canonical name only the first is kept (`returns_distinct`), so the identifiers of a
signature are all different (`Signature.Canonical.nodup_identifiers`).

The types that an operation hoists are registered under new names, and a failed operation
only drops some, so no name is registered twice (`stays_signatures`).
-/
import TypedContract.Proofs.Name.Identifier
import TypedContract.Proofs.Signature.Keeping
import TypedContract.Proofs.Signature.Steps
import TypedContract.Proofs.Translation.Faithful
import TypedContract.Proofs.Translation.Registration

namespace TypedContract

set_option autoImplicit false

variable {α β : Type}

/-! ## What steps give -/

/-- What the step gives, unless it gives the operation up, is good. -/
structure Mapping.Ensures (step : Mapping α) (good : α → Prop) : Prop where
  ensures : ∀ {s t : Session} {a : α}, Run.Returns step.run s (some a) t → good a

namespace Mapping.Ensures

variable {good : α → Prop} {fine : β → Prop}

theorem pure {a : α} (own : good a) : Ensures (Pure.pure a) good := by
  refine ⟨fun {s t b} returned => ?_⟩
  cases (Run.returns_pure.1 returned).1
  exact own

theorem bind {first : Mapping β} {next : β → Mapping α} (head : Ensures first fine)
    (tail : ∀ b, fine b → Ensures (next b) good) : Ensures (first >>= next) good := by
  refine ⟨fun {s t a} returned => ?_⟩
  rw [OptionT.run_bind] at returned
  obtain ⟨result, u, one, rest⟩ := Run.returns_bind.1 returned
  cases result with
  | none => cases (Run.returns_pure.1 rest).1
  | some b => exact (tail b (head.ensures one)).ensures rest

/-- A first step of which nothing need be known. -/
theorem next {first : Mapping β} {next : β → Mapping α} (tail : ∀ b, Ensures (next b) good) :
    Ensures (first >>= next) good :=
  @bind α β good (fun _ => True) first next ⟨fun _ => trivial⟩ fun b _ => tail b

theorem step {run : Run α} (each : ∀ {s t : Session} {a : α}, Run.Returns run s a t → good a) :
    Ensures (OptionT.lift run) good := by
  refine ⟨fun {s t a} returned => ?_⟩
  rw [OptionT.run_lift] at returned
  obtain ⟨b, u, own, same⟩ := Run.returns_bind.1 returned
  cases (Run.returns_pure.1 same).1
  exact each own

variable {each : α → Prop}

/-- Items found one after the other. -/
theorem cons {first : Mapping α} {others : Mapping (List α)} (head : Ensures first each)
    (tail : Ensures others fun found => ∀ a ∈ found, each a) :
    Ensures (first >>= fun a => others >>= fun rest => Pure.pure (a :: rest))
      fun found => ∀ a ∈ found, each a :=
  bind head fun _ own => bind tail fun _ rest => pure (List.forall_mem_cons.2 ⟨own, rest⟩)

theorem append {first others : Mapping (List α)}
    (head : Ensures first fun found => ∀ a ∈ found, each a)
    (tail : Ensures others fun found => ∀ a ∈ found, each a) :
    Ensures (first >>= fun front => others >>= fun rest => Pure.pure (front ++ rest))
      fun found => ∀ a ∈ found, each a :=
  bind head fun _ own => bind tail fun _ rest => pure (List.forall_mem_append.2 ⟨own, rest⟩)

end Mapping.Ensures

/-! ## Parameters -/

/-- The parameter has its canonical name and the identifier made from it. -/
structure Parameter.Canonical (parameter : Parameter) : Prop where
  display : parameter.display = Name.display parameter.name
  identifier : parameter.identifier = Name.identifier parameter.display

namespace SignatureBuilder

variable {builder : SignatureBuilder} {context : String}

theorem ensures_parameter {raw : Node} {kind : ParameterKind} :
    Mapping.Ensures (builder.parameter raw kind context) Parameter.Canonical := by
  unfold parameter
  refine .next fun named => .next fun schema => .next fun name => .next fun (type, default) => ?_
  refine .next fun _ => .next fun flag => .next fun description => .next fun annotations => ?_
  refine .pure ?_
  constructor
  · dsimp only
  · dsimp only

theorem ensures_placed {raw : List Node} :
    Mapping.Ensures (builder.placed context raw) fun found => ∀ p ∈ found, p.Canonical := by
  induction raw with
  | nil => exact .pure (by simp)
  | cons first rest ih =>
      unfold placed
      refine .next fun kind => ?_
      cases kind with
      | other => exact .next fun place => .next fun name => .next fun _ => ih
      | _ => exact .cons ensures_parameter ih

theorem ensures_headerParameters {headers : List (String × Node)} :
    Mapping.Ensures (builder.headerParameters context headers)
      fun found => ∀ p ∈ found, p.Canonical := by
  induction headers with
  | nil => exact .pure (by simp)
  | cons first rest ih => exact .next fun header => .next fun named => .cons ensures_parameter ih

theorem ensures_encodingParameters {encodings : List (String × Node)} :
    Mapping.Ensures (builder.encodingParameters context encodings)
      fun found => ∀ p ∈ found, p.Canonical := by
  induction encodings with
  | nil => exact .pure (by simp)
  | cons first rest ih => exact .next fun headers => .append ensures_headerParameters ih

theorem ensures_mediaParameters {medias : List (String × Node)} :
    Mapping.Ensures (builder.mediaParameters context medias)
      fun found => ∀ p ∈ found, p.Canonical := by
  induction medias with
  | nil => exact .pure (by simp)
  | cons first rest ih => exact .next fun encodings => .append ensures_encodingParameters ih

/-- The payload is named like a parameter of that name. -/
theorem canonical_of_payload {body content : Node} {s t : Session} {parameter : Parameter}
    (returned : Run.Returns (builder.payload body content context) s parameter t) :
    parameter.Canonical := by
  have named : payloadName = Name.display payloadName := by decide +kernel
  have identified : payloadName = Name.identifier payloadName := by decide +kernel
  unfold payload at returned
  obtain ⟨mediaType, _, -, returned⟩ := Run.returns_bind.1 returned
  split at returned
  · simp only [Run.returns_bind, Run.returns_pure] at returned
    obtain ⟨schema, _, -, type, _, -, description, _, -, media, _, -, annotations, _, -, rfl, -⟩ :=
      returned
    exact ⟨named, identified⟩
  · simp only [Run.returns_bind, Run.returns_pure] at returned
    obtain ⟨schema, _, -, type, _, -, description, _, -, annotations, _, -, rfl, -⟩ := returned
    exact ⟨named, identified⟩

theorem ensures_bodyParameters {operation : Node} :
    Mapping.Ensures (builder.bodyParameters operation context)
      fun found => ∀ p ∈ found, p.Canonical := by
  refine .next fun raw => ?_
  split
  · exact .pure (by simp)
  · refine .next fun body => .next fun content => ?_
    refine .bind (.step canonical_of_payload) fun payload own => .next fun entries => ?_
    exact .bind ensures_mediaParameters fun others rest =>
      .pure (List.forall_mem_cons.2 ⟨own, rest⟩)

/-- Every parameter of an operation is canonical. -/
theorem ensures_candidates {operation shared : Node} :
    Mapping.Ensures (builder.candidates operation shared context)
      fun found => ∀ p ∈ found, p.Canonical := by
  refine .append ?_ ensures_bodyParameters
  exact .next fun shared => .next fun own => .next fun declared => ensures_placed

/-- What is kept is what was there, each canonical name once and none that was seen. -/
theorem returns_distinct {functionName : String} {seen : List String}
    {parameters kept : List Parameter} {s t : Session}
    (returned : Run.Returns (distinct functionName seen parameters) s kept t) :
    kept.Sublist parameters ∧ (kept.map (·.display)).Nodup ∧ ∀ p ∈ kept, p.display ∉ seen := by
  induction parameters generalizing seen kept s with
  | nil =>
      cases (Run.returns_pure.1 returned).1
      exact ⟨.refl [], List.nodup_nil, by simp⟩
  | cons first rest ih =>
      unfold distinct at returned
      split at returned
      · obtain ⟨_, u, -, others⟩ := Run.returns_bind.1 returned
        obtain ⟨sub, apart, unseen⟩ := ih others
        exact ⟨sub.cons first, apart, unseen⟩
      · rename_i new
        simp only [Run.returns_bind, Run.returns_pure] at returned
        obtain ⟨others, u, found, rfl, rfl⟩ := returned
        obtain ⟨sub, apart, unseen⟩ := ih found
        have away : first.display ∉ others.map (·.display) := by
          intro again
          obtain ⟨other, member, same⟩ := List.mem_map.1 again
          exact unseen other member (same ▸ List.mem_cons_self)
        refine ⟨sub.cons_cons first, List.nodup_cons.2 ⟨away, apart⟩, ?_⟩
        refine List.forall_mem_cons.2 ⟨by simpa using new, fun p member earlier => ?_⟩
        exact unseen p member (List.mem_cons_of_mem _ earlier)

end SignatureBuilder

/-! ## Signatures -/

/-- The parameters of the signature are canonical, each canonical name once. -/
structure Signature.Canonical (signature : Signature) : Prop where
  each : ∀ p ∈ signature.parameters, p.Canonical
  apart : (signature.parameters.map (·.display)).Nodup

/-- The identifiers of the parameters are all different. -/
theorem Signature.Canonical.nodup_identifiers {signature : Signature}
    (canonical : signature.Canonical) : (signature.parameters.map (·.identifier)).Nodup := by
  have identifiers : signature.parameters.map (·.identifier) =
      (signature.parameters.map (·.display)).map Name.identifier := by
    rw [List.map_map]
    exact List.map_congr_left fun p member => (canonical.each p member).identifier
  rw [identifiers]
  refine List.Nodup.map_on (fun first member second member' same => ?_) canonical.apart
  obtain ⟨p, held, rfl⟩ := List.mem_map.1 member
  obtain ⟨q, held', rfl⟩ := List.mem_map.1 member'
  have framed : ∀ p ∈ signature.parameters, Name.Framed p.display := fun p held =>
    (canonical.each p held).display ▸ Name.framed_display p.name
  exact Name.identifier_injective (framed p held) (framed q held') same

namespace SignatureBuilder

variable {builder : SignatureBuilder} {functionName method path : String}
  {operation shared : Node} {s t : Session}

theorem canonical_of_build {signature : Signature}
    (returned : Run.Returns (builder.build functionName method path operation shared) s
      (some signature) t) : signature.Canonical := by
  obtain ⟨candidates, kept, u, v, steps⟩ := returns_build_some.1 returned
  obtain ⟨sub, apart, -⟩ := returns_distinct steps.chosen
  have all : ∀ p ∈ candidates, p.Canonical := ensures_candidates.ensures steps.searched
  have sorted : signature.parameters.Perm kept := by
    rw [steps.parameters]
    exact List.filter_append_perm _ kept
  exact ⟨fun p member => all p (sub.subset (sorted.subset member)),
    (sorted.map _).nodup_iff.2 apart⟩

end SignatureBuilder

theorem Fragments.canonical_of_signatures {builder : SignatureBuilder}
    {operations : List (String × Contract.Operation)} {s t : Session} {built : List Signature}
    (returned : Run.Returns (Fragments.signatures builder operations) s built t) :
    ∀ signature ∈ built, signature.Canonical := by
  induction operations generalizing s built with
  | nil =>
      obtain ⟨rfl, -⟩ := Run.returns_pure.1 returned
      simp
  | cons operation rest ih =>
      unfold Fragments.signatures at returned
      obtain ⟨found, u, first, returned⟩ := Run.returns_bind.1 returned
      cases found with
      | none =>
          obtain ⟨_, v, -, others⟩ := Run.returns_bind.1 returned
          exact ih others
      | some signature =>
          simp only [Run.returns_bind, Run.returns_pure] at returned
          obtain ⟨more, v, others, rfl, rfl⟩ := returned
          exact List.forall_mem_cons.2 ⟨SignatureBuilder.canonical_of_build first, ih others⟩

/-! ## Names that are registered -/

/-- The step registers no name twice. -/
structure Run.NamesStay (step : Run α) : Prop where
  stay : ∀ {s t : Session} {a : α}, Run.Returns step s a t → s.registry.names.Nodup →
    t.registry.names.Nodup

/-- That no name is registered twice outlives the giving up of operations. -/
theorem outlasting_names : Outlasting fun s => s.registry.names.Nodup where
  noted := fun distinct registry _ => registry ▸ distinct
  dropped := fun distinct _ _ => distinct

/-- The signatures of all operations register no name twice. -/
theorem Fragments.stays_signatures {builder : SignatureBuilder} {schemas : Node}
    (sound : builder.translator.ties.Sound schemas)
    {operations : List (String × Contract.Operation)} :
    Run.NamesStay (signatures builder operations) := by
  have translates : ∀ {node : Node} {context : String},
      Run.Keeps (fun s => s.registry.names.Nodup) (builder.translator.translateNode node context) := by
    refine fun {node context} => ⟨fun {s t type} returned distinct => ?_⟩
    obtain ⟨schema, -, derived⟩ := Translator.derives_translateNode sound returned
    exact ⟨derived.grows, derived.names_nodup distinct⟩
  exact ⟨fun returned distinct =>
    ((keeps_signatures outlasting_names translates).keep returned distinct).2⟩

end TypedContract
