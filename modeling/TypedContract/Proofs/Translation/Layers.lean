/-
# TypedContract.Proofs.Translation.Layers -- types over two registries, layer by layer

Over two registries the type of a schema can differ only where an `allOf` looks into the
registry.  If the merges over both agree in some layers (`MergesAlike`), closed under going
one record up, then all types do (`MergesAlike.typeOver`, `MergesAlike.namedOver`): a
record has its fields one layer deeper, and a merge has the layers of its sources.
-/
import TypedContract.Proofs.Ty.Outline
import TypedContract.Proofs.Translation.Over
import TypedContract.Proofs.Ty.References

namespace TypedContract.Translation

set_option autoImplicit false

open Schema

variable {schemas : Node} {registry other : Registry} {schema : Schema} {context name : String}
  {type : Ty}

/-! ## The layers of a merge -/

theorem outlineFields_putField {n : Nat} {field : Field Ty} {fields : List (Field Ty)} :
    Ty.outlineFields n (putField field fields) =
      putField { field with type := field.type.outline n } (Ty.outlineFields n fields) := by
  induction fields with
  | nil => rfl
  | cons first rest ih =>
      simp only [putField, Ty.outlineFields]
      split
      · rfl
      · rw [Ty.outlineFields, ih]

theorem outlineFields_foldl {n : Nat} {fields merged : List (Field Ty)} :
    Ty.outlineFields n (fields.foldl (fun merged field => putField field merged) merged) =
      (Ty.outlineFields n fields).foldl (fun merged field => putField field merged)
        (Ty.outlineFields n merged) := by
  induction fields generalizing merged with
  | nil => rfl
  | cons field rest ih =>
      rw [List.foldl_cons, ih, outlineFields_putField]
      rfl

/-- A merge has the layers of what it takes its fields from. -/
theorem outlineFields_mergeFields {n : Nat} {types : List Ty} :
    Ty.outlineFields n (mergeFields types) = mergeFields (types.map (Ty.outline (n + 1))) := by
  suffices merged : ∀ merged : List (Field Ty),
      Ty.outlineFields n (types.foldl mergeInto merged) =
        (types.map (Ty.outline (n + 1))).foldl mergeInto (Ty.outlineFields n merged) from merged []
  induction types with
  | nil => exact fun _ => rfl
  | cons type rest ih =>
      intro merged
      rw [List.foldl_cons, ih, List.map_cons, List.foldl_cons]
      refine congrArg (fun start => List.foldl _ start (rest.map (Ty.outline (n + 1)))) ?_
      cases type with
      | record => exact outlineFields_foldl
      | _ => rfl

/-! ## Types in the same layers -/

theorem map_eq_map_cases {α β : Type} {f : α → β} {first second : Option α}
    (same : f <$> first = f <$> second) :
    (first = none ∧ second = none) ∨ ∃ a b, first = some a ∧ second = some b ∧ f a = f b := by
  cases first with
  | none =>
      cases second with
      | none => exact .inl ⟨rfl, rfl⟩
      | some b => cases same
  | some a =>
      cases second with
      | none => cases same
      | some b => exact .inr ⟨a, b, rfl, rfl, Option.some.inj same⟩

/-- What is the same inside is the same outside, when `f` leads from the one to the other. -/
theorem map_map_congr {α β γ δ : Type} {f : α → β} {g : γ → δ} {h : α → γ} {k : β → δ}
    (comm : ∀ a, k (f a) = g (h a)) {first second : Option α}
    (same : h <$> first = h <$> second) : k <$> f <$> first = k <$> f <$> second := by
  have pass (found : Option α) : k <$> f <$> found = g <$> h <$> found := by
    rw [Functor.map_map, Functor.map_map]
    exact congrArg (· <$> found) (funext comm)
  rw [pass, pass, same]

theorem outline_withNil {n : Nat} {nullable : Bool} :
    (withNil nullable type).outline n = withNil nullable (type.outline n) := by
  unfold withNil
  rw [Ty.isNilable_outline]
  split <;> rfl

/-- The schema has the same layers over both registries. -/
def AlikeOver (schemas : Node) (registry other : Registry) (layers : Nat → Prop)
    (schema : Schema) : Prop :=
  ∀ context n, layers n → Ty.outline n <$> typeOver schemas registry schema context =
    Ty.outline n <$> typeOver schemas other schema context

/-- Members with the same layers merge over both registries or over none, and then give the
merge the same layers. -/
def MergesAlike (schemas : Node) (registry other : Registry) (layers : Nat → Prop) : Prop :=
  ∀ members name types types',
    (typedParts name 1 members).mapM (partOver schemas registry) = some types →
    (typedParts name 1 members).mapM (partOver schemas other) = some types' →
    (∀ n, layers n → types.map (Ty.outline n) = types'.map (Ty.outline n)) →
    mergeable (sourcesOver registry types) = mergeable (sourcesOver other types') ∧
      (mergeable (sourcesOver registry types) = true → ∀ n, layers n →
        (sourcesOver registry types).map (Ty.outline n) =
          (sourcesOver other types').map (Ty.outline n))

section

variable {layers : Nat → Prop} {n : Nat}

theorem AlikeOver.parts {parts : List (Schema × String)}
    (each : ∀ part ∈ parts, AlikeOver schemas registry other layers part.1) (here : layers n) :
    List.map (Ty.outline n) <$> parts.mapM (partOver schemas registry) =
      List.map (Ty.outline n) <$> parts.mapM (partOver schemas other) := by
  rw [← mapM_map_results, ← mapM_map_results]
  exact mapM_congr_mem fun part member => each part member part.2 n here

theorem AlikeOver.fields (record : Option String) (required : List Json)
    {properties : List (String × Schema)}
    (each : ∀ property ∈ properties, AlikeOver schemas registry other layers property.2)
    (here : layers n) :
    Ty.outlineFields n <$> fieldsOver schemas registry record required properties =
      Ty.outlineFields n <$> fieldsOver schemas other record required properties := by
  induction properties with
  | nil => simp only [fieldsOver]
  | cons property rest ih =>
      obtain ⟨property, schema⟩ := property
      have first := each _ List.mem_cons_self (propertyContext record property) n here
      have others := ih fun other member => each other (List.mem_cons_of_mem _ member)
      rw [fieldsOver, fieldsOver]
      rcases map_eq_map_cases first with ⟨none, none'⟩ | ⟨type, type', own, own', sameType⟩
      · rw [none, none']
        rfl
      rcases map_eq_map_cases others with ⟨none, none'⟩ | ⟨fields, fields', rest, rest', sameRest⟩
      · rw [own, own', none, none']
        cases (describe schema.facts).toOption <;> rfl
      rw [own, own', rest, rest']
      cases (describe schema.facts).toOption with
      | none => rfl
      | some text =>
          change some (Ty.outlineFields n (fieldOf required property schema type text :: fields)) =
            some (Ty.outlineFields n (fieldOf required property schema type' text :: fields'))
          rw [fieldOf, fieldOf, Ty.outlineFields, Ty.outlineFields, sameType, sameRest]

/-- Records whose fields have the same layers have one layer more in common. -/
theorem outline_record {record : Option String} {text : String} {fields fields' : List (Field Ty)}
    (same : ∀ m, n = m + 1 → Ty.outlineFields m fields = Ty.outlineFields m fields') :
    (Ty.record record fields text).outline n = (Ty.record record fields' text).outline n := by
  cases n with
  | zero => rfl
  | succ m => rw [Ty.outline, Ty.outline, same m rfl]

theorem AlikeOver.record {facts : Facts} {record : Option String}
    {properties : List (String × Schema)} (down : ∀ n, layers (n + 1) → layers n)
    (each : ∀ property ∈ properties, AlikeOver schemas registry other layers property.2)
    (here : layers n) :
    Ty.outline n <$> (fieldsOver schemas registry record facts.required properties >>=
        recordWith facts record) =
      Ty.outline n <$> (fieldsOver schemas other record facts.required properties >>=
        recordWith facts record) := by
  rcases map_eq_map_cases (AlikeOver.fields record facts.required each here) with
    ⟨none, none'⟩ | ⟨fields, fields', own, own', -⟩
  · rw [none, none']
  have same : ∀ m, n = m + 1 → Ty.outlineFields m fields = Ty.outlineFields m fields' := by
    rintro m rfl
    have below := AlikeOver.fields record facts.required each (down m here)
    rw [own, own'] at below
    exact Option.some.inj below
  rw [own, own']
  change Ty.outline n <$> recordWith facts record fields =
    Ty.outline n <$> recordWith facts record fields'
  unfold recordWith
  cases (strip facts.description).toOption with
  | none => rfl
  | some text => exact congrArg some (outline_record same)

theorem outline_unmerged {record : Option String} {types types' : List Ty}
    (same : types.map (Ty.outline n) = types'.map (Ty.outline n)) :
    (unmerged record types).outline n = (unmerged record types').outline n := by
  match types, types' with
  | [only], [only'] =>
      change Ty.union record (Ty.outlineMembers n [only]) =
        Ty.union record (Ty.outlineMembers n [only'])
      rw [Ty.outlineMembers_eq_map, Ty.outlineMembers_eq_map, same]
  | [], [] | _ :: _ :: _, _ :: _ :: _ => rfl
  | [], _ :: _ | _ :: _, [] | [_], _ :: _ :: _ | _ :: _ :: _, [_] =>
      exact absurd (congrArg List.length same) (by simp)

theorem MergesAlike.combine {members : List Schema} {facts : Facts} {record : Option String}
    (merges : MergesAlike schemas registry other layers)
    (each : ∀ member ∈ members, AlikeOver schemas registry other layers member)
    (here : layers n) :
    Ty.outline n <$> ((typedParts record 1 members).mapM (partOver schemas registry) >>=
        combineOver registry facts record) =
      Ty.outline n <$> ((typedParts record 1 members).mapM (partOver schemas other) >>=
        combineOver other facts record) := by
  have parts : ∀ m, layers m → List.map (Ty.outline m) <$>
      (typedParts record 1 members).mapM (partOver schemas registry) =
      List.map (Ty.outline m) <$>
        (typedParts record 1 members).mapM (partOver schemas other) :=
    fun m layer => AlikeOver.parts (forall_typedParts each) layer
  rcases map_eq_map_cases (parts n here) with ⟨none, none'⟩ | ⟨types, types', own, own', sameHere⟩
  · rw [none, none']
    rfl
  have alike : ∀ m, layers m → types.map (Ty.outline m) = types'.map (Ty.outline m) := by
    intro m layer
    have same := parts m layer
    rw [own, own'] at same
    exact Option.some.inj same
  obtain ⟨sameMerge, sources⟩ := merges members record types types' own own' alike
  rw [own, own']
  change Ty.outline n <$> combineOver registry facts record types =
    Ty.outline n <$> combineOver other facts record types'
  unfold combineOver
  rw [← sameMerge]
  cases merged : mergeable (sourcesOver registry types) with
  | true =>
      rw [if_pos rfl, if_pos rfl]
      cases (strip facts.description).toOption with
      | none => rfl
      | some text =>
          refine congrArg some (outline_record ?_)
          rintro m rfl
          rw [outlineFields_mergeFields, outlineFields_mergeFields, sources merged _ here]
  | false =>
      rw [if_neg Bool.false_ne_true, if_neg Bool.false_ne_true]
      exact congrArg some (outline_unmerged sameHere)

/-- Over registries over which merges are alike, all schemas are. -/
theorem MergesAlike.typeOver (merges : MergesAlike schemas registry other layers)
    (down : ∀ n, layers (n + 1) → layers n) (schema : Schema) :
    AlikeOver schemas registry other layers schema := by
  induction schema using Schema.induction with
  | step schema inItems inProperties inAdditional inMembers =>
      intro context n here
      rw [typeOver_eq, typeOver_eq]
      refine map_map_congr (fun _ => outline_withNil) ?_
      unfold bareOver
      cases schema.facts.kind with
      | array =>
          cases items : schema.items with
          | none => rfl
          | some item =>
              refine map_map_congr (g := Ty.array) (fun _ => ?_)
                (inItems item items (extend context "Item") n here)
              rw [Ty.outline]
      | object =>
          cases schema.properties.isEmpty with
          | true =>
              cases additional : schema.additional with
              | none => rfl
              | some value =>
                  refine map_map_congr (g := Ty.map) (fun _ => ?_)
                    (inAdditional value additional (extend context "Value") n here)
                  rw [Ty.outline]
          | false =>
              cases context == "" with
              | true => exact AlikeOver.record down inProperties here
              | false => rfl
      | union =>
          refine map_map_congr (h := List.map (Ty.outline n)) (g := Ty.union none)
            (fun types => ?_) (AlikeOver.parts (forall_unionParts inMembers) here)
          rw [Ty.outline, Ty.outlineMembers_eq_map]
      | allOf => exact merges.combine inMembers here
      | _ => rfl

theorem outline_namedUnion {nullable : Bool} {types : List Ty} :
    (namedUnion name nullable types).outline n =
      namedUnion name nullable (types.map (Ty.outline n)) := by
  unfold namedUnion
  have same : (Ty.union (some name) (types.map (Ty.outline n))).isNilable =
      (Ty.union (some name) types).isNilable := by
    rw [← Ty.outlineMembers_eq_map]
    exact Ty.anyNilable_outline types
  rw [same]
  split
  · rw [Ty.outline, Ty.outlineMembers_eq_map, List.map_append]
    rfl
  · rw [Ty.outline, Ty.outlineMembers_eq_map]

/-- Over registries over which merges are alike, all components are. -/
theorem MergesAlike.namedOver (merges : MergesAlike schemas registry other layers)
    (down : ∀ n, layers (n + 1) → layers n) (here : layers n) :
    Ty.outline n <$> Translation.namedOver schemas registry name schema =
      Ty.outline n <$> Translation.namedOver schemas other name schema := by
  have each : ∀ schema, AlikeOver schemas registry other layers schema := merges.typeOver down
  unfold Translation.namedOver
  cases schema.facts.kind with
  | object =>
      cases schema.properties.isEmpty with
      | true => exact each schema name n here
      | false => exact AlikeOver.record down (fun property _ => each property.2) here
  | allOf => exact merges.combine (fun member _ => each member) here
  | union =>
      exact map_map_congr (fun _ => outline_namedUnion)
        (AlikeOver.parts (fun part _ => each part.1) here)
  | _ => exact each schema name n here

end

end TypedContract.Translation
