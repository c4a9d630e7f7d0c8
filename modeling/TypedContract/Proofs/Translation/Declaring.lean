/-
# TypedContract.Proofs.Translation.Declaring -- what schemas declare, and the fields they become

Whether a field of a record is required is said where the property is declared, by the
`required` of the object that has it.  What a merge comes to can be read off the schemas
alone: list what the typed members declare, one after the other and through their references
(`DeclaresFields`).

That the registry comes to just this is the subject of `DeclaredAs`.  Two things lead from a
member to fields: what its type resolves to, and, where a merge met a component in progress,
the record that the component was built to anew.  Both have on every name the last word of
the declarations (`DeclaresFields.becomesMarked`), by induction on these: an object, a reference, an
`allOf` and a union around one schema each pass on what is declared inside.
-/
import TypedContract.Proofs.Translation.Agreement
import TypedContract.Proofs.Translation.Descent
import TypedContract.Proofs.Translation.Merging

namespace TypedContract

set_option autoImplicit false

namespace Translation

open Schema

variable {schemas : Node} {number : Nat} {contract : Json} {final : Session} {schema : Schema}
  {declared declared' : List (String × Bool)} {type : Ty} {fields : List (Field Ty)}

/-! ## What schemas declare -/

/-- What declares fields: a schema, or the members of an `allOf` one after the other. -/
inductive Declaring where
  | schema (schema : Schema)
  | members (members : List Schema)

/-- The names that are declared in order, each with whether that declaration requires it. -/
inductive DeclaresFields (schemas : Node) : Declaring → List (String × Bool) → Prop where
  | object {schema : Schema} (kind : schema.facts.kind = .object)
      (properties : schema.properties ≠ []) :
      DeclaresFields schemas (.schema schema) (schema.properties.map fun property =>
        (property.1, schema.facts.required.any (Json.same (.str property.1))))
  | reference {schema component : Schema} {name : String} {declared : List (String × Bool)}
      (refers : RefersTo schemas schema name)
      (parsed : componentSchema schemas name = .ok component)
      (inside : DeclaresFields schemas (.schema component) declared) :
      DeclaresFields schemas (.schema schema) declared
  | allOf {schema : Schema} {declared : List (String × Bool)} (kind : schema.facts.kind = .allOf)
      (inside : DeclaresFields schemas (.members schema.members) declared) :
      DeclaresFields schemas (.schema schema) declared
  | union {schema only : Schema} {declared : List (String × Bool)}
      (kind : schema.facts.kind = .union) (single : schema.members = [only])
      (inside : DeclaresFields schemas (.schema only) declared) :
      DeclaresFields schemas (.schema schema) declared
  | none : DeclaresFields schemas (.members []) []
  | note {member : Schema} {members : List Schema} {declared : List (String × Bool)}
      (note : member.isNote = true) (rest : DeclaresFields schemas (.members members) declared) :
      DeclaresFields schemas (.members (member :: members)) declared
  | typed {member : Schema} {members : List Schema} {own declared : List (String × Bool)}
      (typed : member.isNote = false) (first : DeclaresFields schemas (.schema member) own)
      (rest : DeclaresFields schemas (.members members) declared) :
      DeclaresFields schemas (.members (member :: members)) (own ++ declared)

/-- The last word on a name. -/
def lastMark (name : String) (declared : List (String × Bool)) : Option Bool :=
  declared.reverse.lookup name

/-- A schema declares one list of names. -/
theorem DeclaresFields.unique {subject : Declaring}
    (first : DeclaresFields schemas subject declared)
    (second : DeclaresFields schemas subject declared') : declared = declared' := by
  -- the kind of the schema decides which rule it stands under
  induction first generalizing declared' with
  | object kind properties =>
      cases second with
      | object => rfl
      | reference refers => cases kind.symm.trans refers.1
      | allOf kind' => cases kind.symm.trans kind'
      | union kind' => cases kind.symm.trans kind'
  | reference refers parsed inside ih =>
      cases second with
      | object kind => cases kind.symm.trans refers.1
      | reference refers' parsed' inside' =>
          cases refers.2.symm.trans refers'.2
          cases parsed.symm.trans parsed'
          exact ih inside'
      | allOf kind => cases kind.symm.trans refers.1
      | union kind => cases kind.symm.trans refers.1
  | allOf kind inside ih =>
      cases second with
      | object kind' => cases kind.symm.trans kind'
      | reference refers => cases kind.symm.trans refers.1
      | allOf _ inside' => exact ih inside'
      | union kind' => cases kind.symm.trans kind'
  | union kind single inside ih =>
      cases second with
      | object kind' => cases kind.symm.trans kind'
      | reference refers => cases kind.symm.trans refers.1
      | allOf kind' => cases kind.symm.trans kind'
      | union _ single' inside' =>
          cases single.symm.trans single'
          exact ih inside'
  | none =>
      cases second
      rfl
  | note note rest ih =>
      cases second with
      | note _ rest' => exact ih rest'
      | typed typed => cases note.symm.trans typed
  | typed typed first rest ihFirst ihRest =>
      cases second with
      | note note => cases typed.symm.trans note
      | typed _ first' rest' => rw [ihFirst first', ihRest rest']

/-- Typed members that each declare fields declare them together. -/
theorem exists_declaresFields_members {members : List Schema}
    (each : ∀ member ∈ members.filter (!·.isNote),
      ∃ own, DeclaresFields schemas (.schema member) own) :
    ∃ declared, DeclaresFields schemas (.members members) declared := by
  induction members with
  | nil => exact ⟨[], .none⟩
  | cons member members ih =>
      cases kind : member.isNote with
      | true =>
          rw [List.filter_cons_of_neg (by simp [kind])] at each
          obtain ⟨declared, rest⟩ := ih each
          exact ⟨declared, .note kind rest⟩
      | false =>
          rw [List.filter_cons_of_pos (by simp [kind])] at each
          obtain ⟨own, first⟩ := each member List.mem_cons_self
          obtain ⟨declared, rest⟩ := ih fun other among => each other (List.mem_cons_of_mem _ among)
          exact ⟨own ++ declared, .typed kind first rest⟩

/-- What a schema declares in a role in which it stands for a record. -/
def Role.Declared (schemas : Node) : Role → List (String × Bool) → Prop
  | .plain schema, declared | .member schema, declared =>
    DeclaresFields schemas (.schema schema) declared
  | .component name, declared => ∃ schema, componentSchema schemas name = .ok schema ∧
      DeclaresFields schemas (.schema schema) declared
  | .members inside, declared => DeclaresFields schemas (.members inside) declared

/-- What stands for a record declares fields. -/
theorem Recordlike.declaresFields {role : Role} (recordlike : Recordlike schemas role) :
    ∃ declared, role.Declared schemas declared := by
  induction recordlike with
  | object kind properties | objectMember kind properties => exact ⟨_, .object kind properties⟩
  | reference kind leads _ _ _ ih | referenceMember kind leads _ ih =>
      obtain ⟨declared, component, parsed, inside⟩ := ih
      exact ⟨declared, .reference ⟨kind, leads⟩ parsed inside⟩
  | allOf kind _ _ ih | allOfMember kind _ ih =>
      obtain ⟨declared, inside⟩ := ih
      exact ⟨declared, .allOf kind inside⟩
  | unionMember kind single _ _ ih =>
      obtain ⟨declared, inside⟩ := ih
      exact ⟨declared, .union kind single inside⟩
  | componentObject parsed kind properties => exact ⟨_, _, parsed, .object kind properties⟩
  | componentMerge parsed kind _ ih =>
      obtain ⟨declared, inside⟩ := ih
      exact ⟨declared, _, parsed, .allOf kind inside⟩
  | componentAlias parsed _ ih =>
      obtain ⟨declared, inside⟩ := ih
      exact ⟨declared, _, parsed, inside⟩
  | members typed each ih => exact exists_declaresFields_members ih

/-! ## The marks of fields -/

/-- The name of a field and whether it is required. -/
def mark (field : Field Ty) : String × Bool := (field.name, field.required)

/-- On every name, the fields have the last word of the declarations. -/
def MarkedAs (fields : List (Field Ty)) (declared : List (String × Bool)) : Prop :=
  ∀ name, (latest name fields).map Field.required = lastMark name declared

theorem lookup_map_mark {name : String} :
    (fields.map mark).lookup name = (fields.find? (·.name == name)).map Field.required := by
  induction fields with
  | nil => rfl
  | cons field rest ih =>
      rw [List.map_cons, List.find?_cons, mark, List.lookup_cons, Bool.beq_comm]
      split
      · rfl
      · exact ih

theorem markedAs_of_marks (same : fields.map mark = declared) : MarkedAs fields declared := by
  intro name
  rw [← same, lastMark, ← List.map_reverse, lookup_map_mark, latest]

theorem MarkedAs.append {fields' : List (Field Ty)} (first : MarkedAs fields declared)
    (rest : MarkedAs fields' declared') : MarkedAs (fields ++ fields') (declared ++ declared') := by
  intro name
  rw [lastMark, List.reverse_append, List.lookup_append, latest_append, ← lastMark, ← lastMark,
    ← rest name, ← first name]
  cases latest name fields' <;> rfl

/-- A merge keeps the marks of what it merges. -/
theorem MarkedAs.assemble (marked : MarkedAs fields declared) :
    MarkedAs (Translation.assemble fields) declared := fun name => by
  rw [latest_assemble, marked name]

/-- The fields of a record have the marks that its object declares. -/
theorem Derives.marks {name : Option String} {required : List Json}
    {properties : List (String × Schema)} {s t : Session}
    (derived : Derives schemas (.fields name required properties s fields t)) :
    fields.map mark =
      properties.map fun property => (property.1, required.any (Json.same (.str property.1))) := by
  induction properties generalizing s fields with
  | nil =>
      cases derived
      rfl
  | cons property rest ih =>
      cases derived with
      | fieldsCons head described tail => rw [List.map_cons, List.map_cons, ih tail]; rfl

/-! ## Types with these marks -/

/-- Whatever fields the type leads to, resolved at the end or built anew on the way, they are
marked as declared. -/
structure DeclaredAs (schemas : Node) (final : Session) (type : Ty)
    (declared : List (String × Bool)) : Prop where
  resolved : ∀ {names record}, final.registry.Reaches names type record → record.isRecord = true →
    MarkedAs (recordFields record) declared
  rebuilt : ∀ {first last component s source t}, type = .reference first →
    Chain final.registry first last → componentSchema schemas last = .ok component →
    Derives schemas (.named last component s source t) → t.Before final → source.isRecord = true →
    MarkedAs (recordFields source) declared

theorem declaredAs_record {record : Option String} {text : String}
    (marked : MarkedAs fields declared) :
    DeclaredAs schemas final (.record record fields text) declared := by
  refine ⟨fun reaches _ => ?_, nofun⟩
  cases reaches
  exact marked

/-- A type that is no record and no reference leads to no fields. -/
theorem declaredAs_of_neither (record : type.isRecord = false) (apart : ∀ name, type ≠ .reference name) :
    DeclaredAs schemas final type declared := by
  refine ⟨fun reaches found => ?_, fun same => absurd same (apart _)⟩
  cases reaches with
  | here => cases record.symm.trans found
  | step => exact absurd rfl (apart _)

/-- What is stripped of a union is looked at no further, a record or a reference is not
stripped. -/
theorem DeclaredAs.of_bare (declaredAs : DeclaredAs schemas final (bareMember type) declared) :
    DeclaredAs schemas final type declared := by
  cases type with
  | record | reference => exact declaredAs
  | _ => exact declaredAs_of_neither rfl (by simp)

/-- A union around one type leads to the fields that the type leads to, or nowhere. -/
theorem DeclaredAs.single {nullable : Bool} {union : Option String} {only : Ty}
    (declaredAs : DeclaredAs schemas final only declared) :
    DeclaredAs schemas final (bareMember (withNil nullable (.union union [only]))) declared := by
  have inside : DeclaredAs schemas final (bareMember (.union union [only])) declared := by
    cases union with
    | some name => exact declaredAs_of_neither rfl (by simp [bareMember])
    | none =>
        cases nil : only.isNil with
        | false => rwa [bareMember_single nil]
        | true =>
            rw [show bareMember (.union none [only]) = .union none [only] by simp [bareMember, nil]]
            exact declaredAs_of_neither rfl (by simp)
  cases adds : nullable && !(Ty.union union [only]).isNilable with
  | false => rwa [show withNil nullable (.union union [only]) = .union union [only] by simp [withNil, adds]]
  | true =>
      rw [withNil, if_pos adds,
        show bareMember (.union none [.union union [only], .nil]) = .union union [only] from rfl]
      exact declaredAs_of_neither rfl (by simp)

/-- A name leads to the fields of its type, and of what its component is built to anew. -/
theorem declaredAs_reference {name : String} (found : final.registry.get? name = some type)
    (declaredAs : DeclaredAs schemas final type declared)
    (rebuilt : ∀ {component s source t}, componentSchema schemas name = .ok component →
      Derives schemas (.named name component s source t) → t.Before final →
      DeclaredAs schemas final source declared) :
    DeclaredAs schemas final (.reference name) declared := by
  constructor
  · intro names record reaches isRecord
    cases reaches with
    | here apart => exact absurd rfl (apart name)
    | step found' rest =>
        cases found.symm.trans found'
        exact declaredAs.resolved rest isRecord
  · intro first last component s source t same chain parsed derived before isRecord
    cases same
    rcases Relation.ReflTransGen.cases_head chain with rfl | ⟨next, step, rest⟩
    · exact (rebuilt parsed derived before).resolved
        (.here (Registry.ne_reference_of_isRecord isRecord)) isRecord
    · cases found.symm.trans step
      exact declaredAs.rebuilt rfl rest parsed derived before isRecord

/-- A type that a merge takes its fields from has the marks of the type it was given for. -/
theorem DeclaredAs.source {s t : Session} {source : Ty}
    (declaredAs : DeclaredAs schemas final (bareMember type) declared)
    (given : Derives schemas (.source type s source t)) (after : t.Before final)
    (record : source.isRecord = true) : MarkedAs (recordFields source) declared := by
  cases given with
  | settled stays =>
      obtain ⟨names, reaches⟩ :=
        (Registry.resolve_eq_iff (Registry.ne_reference_of_isRecord record)).1 rfl
      exact declaredAs.resolved (reaches.of_prefix after.entries) record
  | @rebuilt name component _ _ _ u meets rebuilds parsed inside =>
      obtain ⟨first, same, chain⟩ := chain_of_follow meets
      have inner : u.Before final := after.of_noted rfl rfl
      have start : s.Before final := (inside.grows.before.trans inner).of_noted rfl rfl
      exact declaredAs.rebuilt same (chain.later start) parsed inside inner record

/-! ## What is declared is what comes out -/

/-- All types that come from the schema are marked as declared. -/
structure SchemaDeclared (schemas : Node) (final : Session) (schema : Schema)
    (declared : List (String × Bool)) : Prop where
  type : ∀ {context s type t}, Derives schemas (.schema schema context s type t) →
    t.Before final → DeclaredAs schemas final (bareMember type) declared
  named : ∀ {name s type t}, Derives schemas (.named name schema s type t) → t.Before final →
    DeclaredAs schemas final type declared

/-- So is what a merge takes from the members, and the type of a single typed member. -/
structure MembersDeclared (schemas : Node) (final : Session) (members : List Schema)
    (declared : List (String × Bool)) : Prop where
  merged : ∀ {name i s types t s' sources t'},
    Derives schemas (.each (typedParts name i members) s types t) → t.Before final →
    Derives schemas (.sources types s' sources t') → t'.Before final →
    sources.all Ty.isRecord = true → MarkedAs (sources.flatMap recordFields) declared
  single : ∀ {name i s only t},
    Derives schemas (.each (typedParts name i members) s [only] t) → t.Before final →
    DeclaredAs schemas final only declared

/-- The subjects of a declaration have become types that are marked as declared. -/
def Declaring.BecomesMarked (schemas : Node) (number : Nat) (contract : Json) (final : Session)
    (declared : List (String × Bool)) : Declaring → Prop
  | .schema schema => schema.IsPartOf number contract → SchemaDeclared schemas final schema declared
  | .members inside => (∀ member ∈ inside, member.IsPartOf number contract) →
      MembersDeclared schemas final inside declared

/-- A schema with a name of its own kind: what the component is, the schema is in place. -/
theorem SchemaDeclared.of_plain (record : schema.facts.kind = .object → schema.properties = [])
    (merge : schema.facts.kind ≠ .allOf) (union : schema.facts.kind ≠ .union)
    (type : ∀ {context s type t}, Derives schemas (.schema schema context s type t) →
      t.Before final → DeclaredAs schemas final (bareMember type) declared) :
    SchemaDeclared schemas final schema declared :=
  ⟨type, fun derived before => (type (derived.named_other record merge union) before).of_bare⟩

theorem schemaDeclared_object (ended : Ended schemas number contract final)
    (stands : schema.IsPartOf number contract) (kind : schema.facts.kind = .object)
    (properties : schema.properties ≠ []) :
    SchemaDeclared schemas final schema (schema.properties.map fun property =>
      (property.1, schema.facts.required.any (Json.same (.str property.1)))) := by
  refine ⟨fun derived before => ?_, fun derived before => ?_⟩
  · obtain ⟨inner, rfl, inside⟩ := derived.of_schema
    obtain ⟨name, u, v, fields, text, own, earlier, rfl | ⟨hoisted, rfl, apart, found⟩⟩ :=
      ended.object stands kind properties inside before
    · rw [bareMember_record]
      exact declaredAs_record (markedAs_of_marks own.marks)
    · rw [show Ty.reference hoisted = referenceType false hoisted from rfl, bareMember_reference]
      refine declaredAs_reference found (declaredAs_record (markedAs_of_marks own.marks)) ?_
      intro component s source t parsed
      exact absurd (holds_of_componentSchema parsed) apart
  · obtain ⟨fields, text, rfl, -, own⟩ := derived.named_object kind properties
    exact declaredAs_record (markedAs_of_marks own.marks)

theorem schemaDeclared_reference (ended : Ended schemas number contract final)
    {component : Schema} {name : String} (refers : RefersTo schemas schema name)
    (parsed : componentSchema schemas name = .ok component)
    (inside : SchemaDeclared schemas final component declared) :
    SchemaDeclared schemas final schema declared := by
  obtain ⟨kind, leads⟩ := refers
  refine .of_plain (by simp [kind]) (by simp [kind]) (by simp [kind]) fun derived before => ?_
  obtain ⟨inner, rfl, bare⟩ := derived.of_schema
  rcases bare.of_reference kind with ⟨nowhere, -⟩ | ⟨other, known, nilable, leads', registered, -, rfl⟩
  · cases nowhere.symm.trans leads
  · cases leads.symm.trans leads'
    rw [bareMember_reference]
    obtain ⟨type, found⟩ := ended.registered before registered.contains
    obtain ⟨own, u, v, parsed', named, earlier⟩ :=
      ended.chronicle.component found (holds_of_target leads)
    cases parsed.symm.trans parsed'
    refine declaredAs_reference found (inside.named named earlier) fun parsed'' rebuilt after => ?_
    cases parsed.symm.trans parsed''
    exact inside.named rebuilt after

theorem schemaDeclared_allOf (kind : schema.facts.kind = .allOf)
    (inside : MembersDeclared schemas final schema.members declared) :
    SchemaDeclared schemas final schema declared := by
  refine ⟨fun derived before => ?_, fun derived before => ?_⟩
  · obtain ⟨inner, rfl, bare⟩ := derived.of_schema
    obtain ⟨types, u, each, merge⟩ := bare.of_allOf kind
    have middle := merge.grows.before.trans before
    cases merge with
    | merged sources records =>
        rw [bareMember_record, mergeFields_eq_assemble]
        simp only [mergeable, Bool.and_eq_true] at records
        exact declaredAs_record (inside.merged each middle sources before records.2).assemble
    | wrapped sources mixed => exact (inside.single each middle).single
    | refused =>
        rw [bareMember_withNil_self rfl rfl]
        exact declaredAs_of_neither rfl (by simp)
  · obtain ⟨types, u, each, merge⟩ := derived.named_allOf kind
    have middle := merge.grows.before.trans before
    cases merge with
    | merged sources records =>
        rw [mergeFields_eq_assemble]
        simp only [mergeable, Bool.and_eq_true] at records
        exact declaredAs_record (inside.merged each middle sources before records.2).assemble
    | wrapped | refused => exact declaredAs_of_neither rfl (by simp)

theorem schemaDeclared_union {only : Schema} (kind : schema.facts.kind = .union)
    (single : schema.members = [only]) (inside : SchemaDeclared schemas final only declared) :
    SchemaDeclared schemas final schema declared := by
  refine ⟨fun derived before => ?_, fun derived before => ?_⟩
  · obtain ⟨inner, rfl, bare⟩ := derived.of_schema
    obtain ⟨types, rfl, each⟩ := bare.of_union kind
    rw [single] at each
    cases each with
    | eachCons head tail =>
        cases tail
        exact (inside.type head before).of_bare.single
  · obtain ⟨types, rfl, -⟩ := derived.named_union kind
    unfold Translation.namedUnion
    split <;> exact declaredAs_of_neither rfl (by simp)

theorem typedParts_note {name : Option String} {i : Nat} {member : Schema} {members : List Schema}
    (note : member.isNote = true) :
    typedParts name i (member :: members) = typedParts name i members := by
  simp [typedParts, note]

theorem typedParts_typed {name : Option String} {i : Nat} {member : Schema}
    {members : List Schema} (typed : member.isNote = false) :
    typedParts name i (member :: members) =
      (member, memberContext name i member.kind) :: typedParts name (i + 1) members := by
  simp [typedParts, typed, List.zipIdx_cons]

theorem membersDeclared_none : MembersDeclared schemas final [] [] := by
  refine ⟨fun each _ given _ _ => ?_, fun each _ => ?_⟩
  · cases each
    cases given
    exact fun name => rfl
  · cases each

theorem MembersDeclared.note {member : Schema} {members : List Schema}
    (rest : MembersDeclared schemas final members declared) (note : member.isNote = true) :
    MembersDeclared schemas final (member :: members) declared := by
  refine ⟨fun each before given after records => ?_, fun each before => ?_⟩
  · rw [typedParts_note note] at each
    exact rest.merged each before given after records
  · rw [typedParts_note note] at each
    exact rest.single each before

theorem MembersDeclared.typed {member : Schema} {members : List Schema}
    (rest : MembersDeclared schemas final members declared')
    (first : SchemaDeclared schemas final member declared) (typed : member.isNote = false) :
    MembersDeclared schemas final (member :: members) (declared ++ declared') := by
  refine ⟨fun each before given after records => ?_, fun each before => ?_⟩
  · rw [typedParts_typed typed] at each
    cases each with
    | eachCons head tail =>
        cases given with
        | sourcesCons own others =>
            simp only [List.all_cons, Bool.and_eq_true] at records
            have marked := (first.type head (tail.grows.before.trans before)).source own
              (others.grows.before.trans after) records.1
            exact marked.append (rest.merged tail before others after records.2)
  · rw [typedParts_typed typed] at each
    cases each with
    | eachCons head tail =>
        -- there is no further typed member, so nothing further is declared
        have nothing : MarkedAs [] declared' := rest.merged tail before .sourcesNil before rfl
        have same : ∀ name, lastMark name (declared ++ declared') = lastMark name declared := by
          intro name
          rw [lastMark, List.reverse_append, List.lookup_append, ← lastMark, ← lastMark,
            ← nothing name]
          rfl
        have own := (first.type head (tail.grows.before.trans before)).of_bare
        refine ⟨fun reaches record name => ?_, fun meets chain parsed built after record name => ?_⟩
        · rw [same, own.resolved reaches record name]
        · rw [same, own.rebuilt meets chain parsed built after record name]

/-- Whatever comes from the subject of a declaration is marked as declared. -/
theorem DeclaresFields.becomesMarked {subject : Declaring}
    (ended : Ended schemas number contract final)
    (declares : DeclaresFields schemas subject declared) :
    subject.BecomesMarked schemas number contract final declared := by
  induction declares with
  | object kind properties => exact fun stands => schemaDeclared_object ended stands kind properties
  | reference refers parsed inside ih =>
      exact fun _ => schemaDeclared_reference ended refers parsed
        (ih (isPartOf_component ended.document parsed))
  | allOf kind inside ih =>
      exact fun stands => schemaDeclared_allOf kind (ih fun member => stands.member)
  | union kind single inside ih =>
      exact fun stands => schemaDeclared_union kind single
        (ih (stands.member (single ▸ List.mem_singleton_self _)))
  | none => exact fun _ => membersDeclared_none
  | note note rest ih =>
      exact fun stands => (ih fun other among => stands other (List.mem_cons_of_mem _ among)).note note
  | typed typed first rest ihFirst ihRest =>
      exact fun stands => (ihRest fun other among => stands other (List.mem_cons_of_mem _ among)).typed
        (ihFirst (stands _ List.mem_cons_self)) typed

end Translation

end TypedContract
