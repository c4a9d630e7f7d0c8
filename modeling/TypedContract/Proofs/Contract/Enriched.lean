/-
# TypedContract.Proofs.Contract.Enriched -- what may differ once a contract was enriched

`Json.Enriched` says of two values that play the same part what may differ between them:
the new one has the keys of the old one in their order and then, perhaps, new ones; under
a key stands what stood there, itself enriched, or what `Offer.Allows` lets stand there.
That is an example where the part takes examples, and a description where the part takes
one, has none that counts and is no reference.

So a reader that asks for no example and no description finds the same on both sides
(`Enriched.find?`, `Enriched.reach`), and a quiet part is the same altogether
(`Enriched.eq_of_quiet`).
-/
import TypedContract.Proofs.Contract.Part
import TypedContract.Proofs.Json.Standing

namespace TypedContract

set_option autoImplicit false

open Contract (Part)

/-! ## What may be written -/

/-- The examples and the descriptions that a source has to offer. -/
structure Offer where
  examples : Example.Which → Json → Prop
  descriptions : Json → Prop
  /-- A description counts. -/
  truthy : ∀ text, descriptions text → text.truthy = true

namespace Offer

/-- The entries of a parameter name one of the locations that take examples. -/
def isLocated (entries : List (String × Json)) : Bool :=
  [ParameterKind.path, .query, .header].any fun kind =>
    match Json.find? "in" entries with
    | some (.str place) => place == kind.word
    | _ => false

/-- The part with these entries takes examples. -/
def TakesExamples (part : Part) (entries : List (String × Json)) : Prop :=
  part.takesExamples = true ∧ (part.isParameter = true → isLocated entries = true)

/-- The part with these entries takes a description unless it has one. -/
def TakesDescription (part : Part) (entries : List (String × Json)) : Prop :=
  part.takesDescription = true ∧ Json.find? "$ref" entries = none

/-- What may come to stand under a key of a part with these entries. -/
inductive Allows (offer : Offer) (part : Part) (entries : List (String × Json)) :
    String → Json → Prop where
  | examples {which : Example.Which} {value : Json} (takes : TakesExamples part entries)
      (offered : offer.examples which value) : Allows offer part entries which.key value
  | description {text : Json} (takes : TakesDescription part entries)
      (missing : ((Json.find? "description" entries).getD .null).truthy = false)
      (offered : offer.descriptions text) : Allows offer part entries "description" text

theorem Allows.writes {offer : Offer} {part : Part} {entries : List (String × Json)}
    {name : String} {value : Json} (allowed : Allows offer part entries name value) :
    part.writes name = true := by
  unfold Part.writes
  cases allowed with
  | @examples which _ takes =>
      rw [takes.1]
      cases which <;> rfl
  | description takes => rw [takes.1, Bool.or_eq_true]; exact .inr rfl

/-- A description is only allowed where none counts. -/
theorem Allows.description_missing {offer : Offer} {part : Part}
    {entries : List (String × Json)} {value : Json}
    (allowed : Allows offer part entries "description" value) :
    ((Json.find? "description" entries).getD .null).truthy = false := by
  generalize named : "description" = name at allowed
  cases allowed with
  | @examples which => cases which <;> exact absurd named (by decide)
  | description takes missing => exact missing

end Offer

namespace Json

/-! ## Enriched values -/

mutual

/-- The new value is the old one, enriched. -/
def Enriched (offer : Offer) (part : Part) : Json → Json → Prop
  | .list old, new => ∃ items, new = .list items ∧ EnrichedItems offer part.element old items
  | .object old, new => ∃ entries, new = .object entries ∧ EnrichedEntries offer part old old entries
  | old, new => new = old

/-- The new items are the old ones, enriched one by one. -/
def EnrichedItems (offer : Offer) (part : Part) : List Json → List Json → Prop
  | [], new => new = []
  | item :: rest, item' :: rest' =>
      Enriched offer part item item' ∧ EnrichedItems offer part rest rest'
  | _ :: _, [] => False

/-- The new entries are the old ones, enriched or written anew, and then the added ones;
`whole` is the object before. -/
def EnrichedEntries (offer : Offer) (part : Part) (whole : List (String × Json)) :
    List (String × Json) → List (String × Json) → Prop
  | [], added =>
      (added.map (·.1)).Nodup ∧ ∀ entry ∈ added,
        find? entry.1 whole = none ∧ offer.Allows part whole entry.1 entry.2
  | (name, value) :: rest, (name', value') :: rest' =>
      name' = name
        ∧ (Enriched offer (part.child name) value value' ∨ offer.Allows part whole name value')
        ∧ EnrichedEntries offer part whole rest rest'
  | _ :: _, [] => False

end

variable {offer : Offer} {part : Part}

/-! ## The same value -/

mutual

theorem Enriched.refl (part : Part) : (value : Json) → Enriched offer part value value
  | .list items => by
      rw [Enriched]
      exact ⟨items, rfl, EnrichedItems.refl part.element items⟩
  | .object entries => by
      rw [Enriched]
      exact ⟨entries, rfl, EnrichedEntries.refl part entries entries⟩
  | .null | .bool _ | .int _ | .double _ | .str _ => by simp [Enriched]

theorem EnrichedItems.refl (part : Part) : (items : List Json) →
    EnrichedItems offer part items items
  | [] => by simp [EnrichedItems]
  | item :: rest => by
      rw [EnrichedItems]
      exact ⟨Enriched.refl part item, EnrichedItems.refl part rest⟩

theorem EnrichedEntries.refl (part : Part) (whole : List (String × Json)) :
    (entries : List (String × Json)) → EnrichedEntries offer part whole entries entries
  | [] => by simp [EnrichedEntries]
  | (name, value) :: rest => by
      rw [EnrichedEntries]
      exact ⟨rfl, .inl (Enriched.refl _ value), EnrichedEntries.refl part whole rest⟩

end

mutual

/-- Nothing changes in a quiet part. -/
theorem Enriched.eq_of_quiet {part : Part} (quiet : part.quiet = true) :
    {old new : Json} → Enriched offer part old new → new = old
  | .list old, _, enriched => by
      rw [Enriched] at enriched
      obtain ⟨items, rfl, inside⟩ := enriched
      rw [EnrichedItems.eq_of_quiet (Part.quiet_element quiet) inside]
  | .object old, _, enriched => by
      rw [Enriched] at enriched
      obtain ⟨entries, rfl, inside⟩ := enriched
      rw [EnrichedEntries.eq_of_quiet quiet inside]
  | .null, _, enriched | .bool _, _, enriched | .int _, _, enriched
  | .double _, _, enriched | .str _, _, enriched => by simpa only [Enriched] using enriched

theorem EnrichedItems.eq_of_quiet {part : Part} (quiet : part.quiet = true) :
    {old new : List Json} → EnrichedItems offer part old new → new = old
  | [], _, enriched => by simpa [EnrichedItems] using enriched
  | item :: rest, item' :: rest', enriched => by
      rw [EnrichedItems] at enriched
      rw [Enriched.eq_of_quiet quiet enriched.1, EnrichedItems.eq_of_quiet quiet enriched.2]
  | _ :: _, [], enriched => by simp [EnrichedItems] at enriched

theorem EnrichedEntries.eq_of_quiet {part : Part} (quiet : part.quiet = true)
    {whole : List (String × Json)} :
    {old new : List (String × Json)} → EnrichedEntries offer part whole old new → new = old
  | [], [], _ => rfl
  | [], entry :: _, enriched => by
      rw [EnrichedEntries] at enriched
      have written := (enriched.2 entry List.mem_cons_self).2.writes
      rw [Part.writes_of_plain (Part.plain_of_quiet quiet)] at written
      cases written
  | (name, value) :: rest, (name', value') :: rest', enriched => by
      rw [EnrichedEntries] at enriched
      obtain ⟨rfl, here, more⟩ := enriched
      rcases here with inside | allowed
      · rw [Enriched.eq_of_quiet (Part.quiet_child quiet _) inside,
          EnrichedEntries.eq_of_quiet quiet more]
      · have written := allowed.writes
        rw [Part.writes_of_plain (Part.plain_of_quiet quiet)] at written
        cases written
  | _ :: _, [], enriched => by simp [EnrichedEntries] at enriched

end

/-! ## The shape of an enriched value -/

theorem enriched_list {old : List Json} {new : Json} :
    Enriched offer part (.list old) new ↔
      ∃ items, new = .list items ∧ EnrichedItems offer part.element old items := by
  rw [Enriched]

theorem enriched_object {old : List (String × Json)} {new : Json} :
    Enriched offer part (.object old) new ↔
      ∃ entries, new = .object entries ∧ EnrichedEntries offer part old old entries := by
  rw [Enriched]

theorem EnrichedItems.exists_cons {item : Json} {rest new : List Json}
    (enriched : EnrichedItems offer part (item :: rest) new) :
    ∃ item' rest', new = item' :: rest' ∧ Enriched offer part item item' ∧
      EnrichedItems offer part rest rest' := by
  cases new with
  | nil => simp [EnrichedItems] at enriched
  | cons item' rest' =>
      rw [EnrichedItems] at enriched
      exact ⟨item', rest', rfl, enriched⟩

theorem EnrichedEntries.exists_cons {entry : String × Json} {whole rest new : List (String × Json)}
    (enriched : EnrichedEntries offer part whole (entry :: rest) new) :
    ∃ value' rest', new = (entry.1, value') :: rest' ∧
      (Enriched offer (part.child entry.1) entry.2 value' ∨
        offer.Allows part whole entry.1 value') ∧ EnrichedEntries offer part whole rest rest' := by
  cases new with
  | nil => simp [EnrichedEntries] at enriched
  | cons entry' rest' =>
      obtain ⟨key', value'⟩ := entry'
      rw [EnrichedEntries] at enriched
      obtain ⟨rfl, here, more⟩ := enriched
      exact ⟨value', rest', rfl, here, more⟩

/-- An entry that is neither an example nor a description is not written anew. -/
theorem Enriched.of_unwritten {name : String} {value value' : Json} {whole : List (String × Json)}
    (here : Enriched offer (part.child name) value value' ∨ offer.Allows part whole name value')
    (unwritten : part.writes name = false) : Enriched offer (part.child name) value value' := by
  rcases here with inside | allowed
  · exact inside
  · cases unwritten.symm.trans allowed.writes

/-- The value holds other values. -/
def isContainer : Json → Bool
  | .list _ => true
  | .object _ => true
  | _ => false

theorem Enriched.eq_of_leaf {old new : Json} (enriched : Enriched offer part old new)
    (leaf : old.isContainer = false) : new = old := by
  cases old with
  | list items => cases leaf
  | object entries => cases leaf
  | _ => simpa only [Enriched] using enriched

/-- Both values are objects, both are lists, or nothing changed. -/
theorem Enriched.cases {old new : Json} (enriched : Enriched offer part old new) :
    (∃ entries entries', old = .object entries ∧ new = .object entries' ∧
        EnrichedEntries offer part entries entries entries') ∨
      (∃ items items', old = .list items ∧ new = .list items' ∧
        EnrichedItems offer part.element items items') ∨
      (old.isContainer = false ∧ new = old) := by
  cases old with
  | list items =>
      obtain ⟨items', same, own⟩ := enriched_list.1 enriched
      exact .inr (.inl ⟨items, items', rfl, same, own⟩)
  | object entries =>
      obtain ⟨entries', same, own⟩ := enriched_object.1 enriched
      exact .inl ⟨entries, entries', rfl, same, own⟩
  | _ => exact .inr (.inr ⟨rfl, enriched.eq_of_leaf rfl⟩)

theorem Enriched.isContainer {old new : Json} (enriched : Enriched offer part old new) :
    new.isContainer = old.isContainer := by
  obtain ⟨_, _, rfl, rfl, -⟩ | ⟨_, _, rfl, rfl, -⟩ | ⟨-, rfl⟩ := enriched.cases <;> rfl

theorem Enriched.isNull {old new : Json} (enriched : Enriched offer part old new) :
    new.isNull = old.isNull := by
  obtain ⟨_, _, rfl, rfl, -⟩ | ⟨_, _, rfl, rfl, -⟩ | ⟨-, rfl⟩ := enriched.cases <;> rfl

/-- A text is equal to the new value when it is equal to the old one. -/
theorem Enriched.same_text {old new : Json} (enriched : Enriched offer part old new)
    (text : String) : same (.str text) new = same (.str text) old := by
  obtain ⟨_, _, rfl, rfl, -⟩ | ⟨_, _, rfl, rfl, -⟩ | ⟨-, rfl⟩ := enriched.cases <;> rfl

theorem EnrichedItems.length {old new : List Json} (enriched : EnrichedItems offer part old new) :
    new.length = old.length := by
  induction old generalizing new with
  | nil =>
      rw [EnrichedItems] at enriched
      rw [enriched]
  | cons item rest ih =>
      obtain ⟨item', rest', rfl, -, more⟩ := enriched.exists_cons
      rw [List.length_cons, List.length_cons, ih more]

theorem EnrichedItems.any_same_text {old new : List Json}
    (enriched : EnrichedItems offer part old new) (text : String) :
    new.any (same (.str text)) = old.any (same (.str text)) := by
  induction old generalizing new with
  | nil =>
      rw [EnrichedItems] at enriched
      rw [enriched]
  | cons item rest ih =>
      obtain ⟨item', rest', rfl, here, more⟩ := enriched.exists_cons
      rw [List.any_cons, List.any_cons, here.same_text, ih more]

theorem EnrichedItems.getElem? {old new : List Json} {position : Nat} {item : Json}
    (enriched : EnrichedItems offer part old new) (here : old[position]? = some item) :
    ∃ item', new[position]? = some item' ∧ Enriched offer part item item' := by
  induction old generalizing new position with
  | nil => cases here
  | cons first rest ih =>
      obtain ⟨first', rest', rfl, own, more⟩ := enriched.exists_cons
      cases position with
      | zero =>
          cases here
          exact ⟨first', rfl, own⟩
      | succ position =>
          rw [List.getElem?_cons_succ] at here
          obtain ⟨item', found, inside⟩ := ih more here
          exact ⟨item', by rw [List.getElem?_cons_succ, found], inside⟩

/-! ## Entries that are neither examples nor descriptions -/

theorem position?_eq_none {name : String} {entries : List (String × Json)}
    (missing : find? name entries = none) : position? name entries = none := by
  induction entries with
  | nil => rfl
  | cons entry rest ih =>
      unfold find? at missing
      unfold position?
      split at missing
      · cases missing
      · rename_i apart
        rw [if_neg apart, ih missing]
        rfl

namespace EnrichedEntries

variable {whole old new : List (String × Json)} {name : String}

/-- An added entry is an example or a description. -/
theorem find?_added (enriched : EnrichedEntries offer part whole [] new)
    (unwritten : part.writes name = false) : Json.find? name new = none := by
  rw [EnrichedEntries] at enriched
  cases found : Json.find? name new with
  | none => rfl
  | some value =>
      have written := (enriched.2 _ (mem_of_find? found)).2.writes
      cases unwritten.symm.trans written

theorem find? (enriched : EnrichedEntries offer part whole old new)
    (unwritten : part.writes name = false) :
    Option.Rel (Enriched offer (part.child name)) (Json.find? name old) (Json.find? name new) := by
  induction old generalizing new with
  | nil => rw [enriched.find?_added unwritten]; exact .none
  | cons entry rest ih =>
      obtain ⟨value', rest', rfl, here, more⟩ := enriched.exists_cons
      unfold Json.find?
      split
      · rename_i same
        obtain rfl := eq_of_beq same
        exact .some (.of_unwritten here unwritten)
      · exact ih more

theorem find?_of_quiet (enriched : EnrichedEntries offer part whole old new)
    (unwritten : part.writes name = false) (quiet : (part.child name).quiet = true) :
    Json.find? name new = Json.find? name old := by
  have related := enriched.find? unwritten
  generalize Json.find? name old = held, Json.find? name new = held' at related
  cases related with
  | some own => rw [own.eq_of_quiet quiet]
  | none => rfl

theorem position? (enriched : EnrichedEntries offer part whole old new)
    (unwritten : part.writes name = false) :
    Json.position? name new = Json.position? name old := by
  induction old generalizing new with
  | nil => exact position?_eq_none (enriched.find?_added unwritten)
  | cons entry rest ih =>
      obtain ⟨value', rest', rfl, -, more⟩ := enriched.exists_cons
      unfold Json.position?
      rw [ih more]

/-- An entry that is neither an example nor a description stays where it is. -/
theorem getElem? {position : Nat} {value : Json}
    (enriched : EnrichedEntries offer part whole old new)
    (here : old[position]? = some (name, value)) (unwritten : part.writes name = false) :
    ∃ value', new[position]? = some (name, value') ∧
      Enriched offer (part.child name) value value' := by
  induction old generalizing new position with
  | nil => cases here
  | cons entry rest ih =>
      obtain ⟨held', rest', rfl, first, more⟩ := enriched.exists_cons
      cases position with
      | zero =>
          cases here
          exact ⟨held', rfl, .of_unwritten first unwritten⟩
      | succ position =>
          rw [List.getElem?_cons_succ] at here
          obtain ⟨value', found, inside⟩ := ih more here
          exact ⟨value', by rw [List.getElem?_cons_succ, found], inside⟩

/-- A plain part keeps its keys. -/
theorem keys (enriched : EnrichedEntries offer part whole old new) (plain : part.plain = true) :
    new.map (·.1) = old.map (·.1) := by
  induction old generalizing new with
  | nil =>
      cases new with
      | nil => rfl
      | cons entry rest =>
          rw [EnrichedEntries] at enriched
          have written := (enriched.2 entry List.mem_cons_self).2.writes
          cases (Part.writes_of_plain plain _).symm.trans written
  | cons entry rest ih =>
      obtain ⟨value', rest', rfl, -, more⟩ := enriched.exists_cons
      rw [List.map_cons, List.map_cons, ih more]

end EnrichedEntries

/-- A plain part counts as absent when it did before. -/
theorem Enriched.truthy {old new : Json} (enriched : Enriched offer part old new)
    (plain : part.plain = true) : new.truthy = old.truthy := by
  obtain ⟨entries, entries', rfl, rfl, own⟩ | ⟨items, items', rfl, rfl, own⟩ | ⟨-, rfl⟩ :=
    enriched.cases
  · have keys := own.keys plain
    cases entries <;> cases entries' <;> first | rfl | cases keys
  · have length := own.length
    cases items <;> cases items' <;> first | rfl | cases length
  · rfl

/-! ## Paths -/

theorem at?_of_reach {path : List Nat} {value found : Json} {q : Part}
    (reached : value.reach part path = some (q, found)) : value.at? path = some found := by
  induction path generalizing part value with
  | nil => cases reached; rfl
  | cons position path ih =>
      cases value with
      | list items =>
          obtain ⟨item, here, inside⟩ := Option.bind_eq_some_iff.1 reached
          rw [at?_cons_list, here]
          exact ih inside
      | object entries =>
          obtain ⟨entry, here, inside⟩ := Option.bind_eq_some_iff.1 reached
          rw [at?_cons_object, here]
          split at inside
          · cases inside
          · exact ih inside
      | _ => cases reached

/-- What a path leads to is enriched with the whole. -/
theorem Enriched.reach {path : List Nat} {old new found : Json} {q : Part}
    (enriched : Enriched offer part old new) (reached : old.reach part path = some (q, found)) :
    ∃ found', new.reach part path = some (q, found') ∧ Enriched offer q found found' := by
  induction path generalizing part old new with
  | nil =>
      cases reached
      exact ⟨new, rfl, enriched⟩
  | cons position path ih =>
      cases old with
      | list items =>
          obtain ⟨items', rfl, inside⟩ := enriched_list.1 enriched
          obtain ⟨item, here, further⟩ := Option.bind_eq_some_iff.1 reached
          obtain ⟨item', here', own⟩ := inside.getElem? here
          obtain ⟨found', reached', related⟩ := ih own further
          exact ⟨found', by rw [Json.reach, here']; exact reached', related⟩
      | object entries =>
          obtain ⟨entries', rfl, inside⟩ := enriched_object.1 enriched
          obtain ⟨⟨name, value⟩, here, further⟩ := Option.bind_eq_some_iff.1 reached
          split at further
          · cases further
          · rename_i unwritten
            rw [Bool.not_eq_true] at unwritten
            obtain ⟨value', here', own⟩ := inside.getElem? here unwritten
            obtain ⟨found', reached', related⟩ := ih own further
            refine ⟨found', ?_, related⟩
            rw [Json.reach, here']
            exact (if_neg (Bool.not_eq_true _ ▸ unwritten)).trans reached'
      | _ => cases reached

end Json

end TypedContract
