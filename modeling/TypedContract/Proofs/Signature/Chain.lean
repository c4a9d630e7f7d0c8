/-
# TypedContract.Proofs.Signature.Chain -- chains of references

A chain of references ends alike in a contract and in what it was enriched to
(`agree_resolve`).  With one allowance both chains pass counterparts
(`agree_resolveWithin`).  But the allowance is the weight of the contract, which enrichment
changes.  It never matters: a chain that goes on follows a reference that one more
component holds and that was not followed before, so it ends within as many steps as there
are components of its kind (`resolveWithin_entry`), and these keep their names
(`length_shelf_enriched`).
-/
import TypedContract.Proofs.Contract.Reading
import TypedContract.Proofs.Json.Pointer
import TypedContract.Signature.Builder

namespace TypedContract

set_option autoImplicit false

open Contract (Part Shared)

/-! ## Parts that may be references -/

/-- The kind of component that a reference in place of the part leads to. -/
def Contract.Part.referred : Part → Option Shared
  | .itemParameter => some .parameter
  | .use kind => some kind
  | .entry kind => some kind
  | _ => none

namespace Contract.Part

variable {part : Part} {kind : Shared}

theorem eq_of_referred (referred : part.referred = some kind) :
    (part = .itemParameter ∧ kind = .parameter) ∨ part = .use kind ∨ part = .entry kind := by
  unfold Part.referred at referred
  split at referred
  · cases referred
    exact .inl ⟨rfl, rfl⟩
  · cases referred
    exact .inr (.inl rfl)
  · cases referred
    exact .inr (.inr rfl)
  · cases referred

theorem quiet_ref_of_referred (referred : part.referred = some kind) :
    (part.child "$ref").quiet = true := by
  rcases eq_of_referred referred with ⟨rfl, rfl⟩ | rfl | rfl
  · rfl
  · cases kind <;> rfl
  · cases kind <;> rfl

/-- Responses and headers are left as they are. -/
theorem quiet_of_referred (referred : part.referred = some kind)
    (still : kind = .response ∨ kind = .header) : part.quiet = true := by
  rcases eq_of_referred referred with ⟨rfl, rfl⟩ | rfl | rfl
  · rcases still with still | still <;> cases still
  · rcases still with rfl | rfl <;> rfl
  · rcases still with rfl | rfl <;> rfl

theorem isParameter_of_referred (referred : part.referred = some .parameter) :
    part.isParameter = true := by
  rcases eq_of_referred referred with ⟨rfl, -⟩ | rfl | rfl <;> rfl

/-- A request body has a content and is never given a description. -/
theorem body_of_referred (referred : part.referred = some .body) :
    part.plain = true ∧ part.child "content" = .content ∧ part.child "description" = .other := by
  rcases eq_of_referred referred with ⟨-, ⟨⟩⟩ | rfl | rfl <;> exact ⟨rfl, rfl, rfl⟩

end Contract.Part

/-- Counterparts that are of a kind, in place, as a reference or as a component. -/
def Node.Kindred (offer : Offer) (contract : Json) (kind : Shared) (old new : Node) : Prop :=
  ∃ part : Part, part.referred = some kind ∧ Counterpart offer contract part old new

/-! ## The components of a kind -/

namespace Json

variable {offer : Offer} {part : Part} {old new : Json} {name : String}

/-- The entries of an object; other values have none. -/
def held : Json → List (String × Json)
  | .object entries => entries
  | _ => []

/-- The member of an object; other values have none. -/
def under (value : Json) (name : String) : Json := (find? name value.held).getD .null

theorem holds_of_object {value : Json} {entries : List (String × Json)}
    (object : value = .object entries) :
    value.holds name = .ok (find? name value.held).isSome := by
  subst object
  rfl

/-- The components of a kind in a contract. -/
def shelf (kind : Shared) (contract : Json) : List (String × Json) :=
  ((contract.under "components").under kind.key).held

theorem eq_of_key {value key : Json} (isKey : value.key = .ok key) : key = value := by
  unfold Json.key at isKey
  split at isKey
  · exact (Except.ok.inj isKey).symm
  · cases isKey

theorem weight_pos (value : Json) : 0 < value.weight := by
  cases value <;> simp only [weight] <;> omega

theorem weight_le_entriesWeight {entries : List (String × Json)} {value : Json}
    (member : (name, value) ∈ entries) : value.weight ≤ entriesWeight entries := by
  induction entries with
  | nil => cases member
  | cons entry rest ih =>
      rw [entriesWeight]
      rcases List.mem_cons.1 member with rfl | inside
      · exact Nat.le_add_right _ _
      · exact Nat.le_trans (ih inside) (Nat.le_add_left _ _)

theorem length_le_entriesWeight (entries : List (String × Json)) :
    entries.length ≤ entriesWeight entries := by
  induction entries with
  | nil => exact Nat.le_refl 0
  | cons entry rest ih =>
      rw [entriesWeight, List.length_cons]
      have own := weight_pos entry.2
      omega

theorem entriesWeight_held_lt (value : Json) : entriesWeight value.held < value.weight := by
  cases value with
  | object entries => exact Nat.lt_succ_self _
  | _ => exact weight_pos _

theorem weight_under_le (value : Json) (name : String) : (value.under name).weight ≤ value.weight := by
  unfold under
  cases found : find? name value.held with
  | none => exact weight_pos value
  | some inner =>
      exact Nat.le_trans (weight_le_entriesWeight (mem_of_find? found))
        (Nat.le_of_lt (entriesWeight_held_lt value))

theorem length_shelf_le_weight (kind : Shared) (contract : Json) :
    (contract.shelf kind).length ≤ contract.weight :=
  calc (contract.shelf kind).length
      ≤ entriesWeight (contract.shelf kind) := length_le_entriesWeight _
    _ ≤ ((contract.under "components").under kind.key).weight :=
        Nat.le_of_lt (entriesWeight_held_lt _)
    _ ≤ (contract.under "components").weight := weight_under_le _ _
    _ ≤ contract.weight := weight_under_le _ _

theorem Enriched.under (enriched : Enriched offer part old new)
    (unwritten : part.writes name = false) :
    Enriched offer (part.child name) (old.under name) (new.under name) := by
  obtain ⟨entries, entries', rfl, rfl, own⟩ | ⟨items, items', rfl, rfl, -⟩ | ⟨-, rfl⟩ :=
    enriched.cases
  · have related := own.find? unwritten
    simp only [Json.under, held]
    generalize Json.find? name entries = found, Json.find? name entries' = found' at related
    cases related with
    | some inside => exact inside
    | none => exact .refl _ _
  · exact .refl _ _
  · exact .refl _ _

theorem Enriched.length_held (enriched : Enriched offer part old new) (plain : part.plain = true) :
    new.held.length = old.held.length := by
  obtain ⟨entries, entries', rfl, rfl, own⟩ | ⟨items, items', rfl, rfl, -⟩ | ⟨-, rfl⟩ :=
    enriched.cases
  · have keys := congrArg List.length (own.keys plain)
    rwa [List.length_map, List.length_map] at keys
  · rfl
  · rfl

/-- Enrichment adds no component. -/
theorem length_shelf_enriched (enriched : Enriched offer .contract old new) (kind : Shared) :
    (new.shelf kind).length = (old.shelf kind).length := by
  have components := enriched.under (show Part.contract.writes "components" = false from rfl)
  have shelved := components.under (Part.writes_of_plain rfl kind.key)
  exact shelved.length_held (by cases kind <;> rfl)

end Json

open Json (shelf)

/-- The first key of a path is held by the value that the path starts from. -/
theorem Node.KeysLead.exists_cons {node found : Node} {name : String} {names : List String}
    (leads : node.KeysLead (name :: names) found) :
    ∃ inner : Node, Json.find? name node.value.held = some inner.value ∧
      inner.KeysLead names found := by
  cases leads with
  | through object held rest => exact ⟨_, by rw [object]; exact Node.value_of_find? held, rest⟩

/-- A reference to a component of a kind leads to one of them. -/
theorem Pointer.mem_shelf_of_resolve {document found : Node} {kind : Shared} {text : String}
    (refers : Pointer.refersTo kind text = true)
    (resolved : Pointer.resolve document (.str text) = .ok found) :
    ∃ name, (name, found.value) ∈ shelf kind document.value := by
  obtain ⟨keys, isPath, leads⟩ := exists_keysLead_of_resolve resolved
  obtain ⟨name, rfl⟩ := keys_of_refersTo refers isPath
  obtain ⟨components, here, leads⟩ := leads.exists_cons
  obtain ⟨shelved, there, leads⟩ := leads.exists_cons
  obtain ⟨entry, last, leads⟩ := leads.exists_cons
  cases leads
  refine ⟨name, Json.mem_of_find? ?_⟩
  rw [shelf, Json.under, Json.under, here, Option.getD_some, there, Option.getD_some]
  exact last

namespace SignatureBuilder

variable {offer : Offer} {contract : Json} {kind : Shared} {document raw : Node}

/-! ## The allowance of a chain -/

/-- The value is a reference that was not followed. -/
def unfollowed (seen : List Json) (value : Json) : Bool :=
  (Json.find? "$ref" value.held).any fun ref => !seen.any (Json.same ref)

/-- How many components of a kind are references that were not followed. -/
def remaining (contract : Json) (kind : Shared) (seen : List Json) : Nat :=
  (shelf kind contract).countP fun entry => unfollowed seen entry.2

theorem remaining_le_length (contract : Json) (kind : Shared) (seen : List Json) :
    remaining contract kind seen ≤ (shelf kind contract).length := List.countP_le_length

/-- Following the reference of a component leaves one fewer. -/
theorem remaining_cons_lt {seen : List Json} {name text : String} {value : Json}
    (member : (name, value) ∈ shelf kind contract)
    (held : value.required "$ref" = .ok (.str text))
    (fresh : seen.any (Json.same (.str text)) = false) :
    remaining contract kind (.str text :: seen) < remaining contract kind seen := by
  have own : Json.find? "$ref" value.held = some (.str text) := by
    cases value with
    | object entries =>
        rw [Json.required] at held
        cases found : Json.find? "$ref" entries with
        | none => rw [found] at held; cases held
        | some ref =>
            rw [found] at held
            cases held
            exact found
    | _ => cases held
  refine countP_lt_countP (fun entry left => ?_) member ?_ ?_
  · obtain ⟨ref, found, unmet⟩ := (Option.any_eq_true ..).1 left
    rw [List.any_cons, Bool.not_or, Bool.and_eq_true] at unmet
    exact (Option.any_eq_true ..).2 ⟨ref, found, unmet.2⟩
  · rw [unfollowed, own, Option.any_some, List.any_cons, Json.same, beq_self_eq_true]
    rfl
  · rw [unfollowed, own, Option.any_some, fresh]
    rfl

/-- The allowance of a chain does not matter where it does not matter for what its first
reference leads to. -/
theorem resolveWithin_succ_congr {bound bound' : Nat} {seen : List Json}
    (rest : ∀ text next, raw.value.required "$ref" = .ok (.str text) →
      seen.any (Json.same (.str text)) = false → Pointer.resolve document (.str text) = .ok next →
      resolveWithin document (.str text :: seen) bound next =
        resolveWithin document (.str text :: seen) bound' next) :
    resolveWithin document seen (bound + 1) raw = resolveWithin document seen (bound' + 1) raw := by
  unfold resolveWithin
  refine except_bind_congr fun isReference _ => ?_
  split
  · rfl
  refine except_bind_congr fun node held => except_bind_congr fun ref isKey => ?_
  obtain rfl := Json.eq_of_key isKey
  split
  · rfl
  rename_i fresh
  refine except_bind_congr fun next led => ?_
  cases isText : node.value with
  | str text =>
      rw [isText] at led fresh
      exact rest text next (isText ▸ Node.value_of_required held) (Bool.not_eq_true _ ▸ fresh) led
  | _ => rw [isText] at led; cases led

/-- A reference to a component of a kind leads to one of them, at its place. -/
theorem component_of_resolve (offer : Offer) {found : Node} {text : String}
    (refersTo : Pointer.refersTo kind text = true)
    (led : Pointer.resolve (.root 0 contract) (.str text) = .ok found) :
    Node.Counterpart offer contract (.entry kind) found found ∧
      ∃ name, (name, found.value) ∈ shelf kind contract := by
  have same : contract.Enriched offer .contract contract := .refl .contract contract
  have own := (Node.Counterpart.root same).resolve refersTo
  rw [led] at own
  cases own with
  | ok own => exact ⟨own, Pointer.mem_shelf_of_resolve refersTo led⟩

/-- The allowance of a chain from a component does not matter once it exceeds the number of
components with a reference that was not followed. -/
theorem resolveWithin_entry (refers : contract.refersInto Part.referred = true) {bound bound' : Nat}
    {seen : List Json} {name : String}
    (counterpart : Node.Counterpart offer contract (.entry kind) raw raw)
    (member : (name, raw.value) ∈ shelf kind contract)
    (enough : remaining contract kind seen < bound) (enough' : remaining contract kind seen < bound') :
    resolveWithin (.root 0 contract) seen bound raw =
      resolveWithin (.root 0 contract) seen bound' raw := by
  induction bound generalizing bound' seen name raw with
  | zero => cases enough
  | succ bound ih =>
      cases bound' with
      | zero => cases enough'
      | succ bound' =>
          refine resolveWithin_succ_congr fun text next held fresh led => ?_
          obtain ⟨own, name', member'⟩ :=
            component_of_resolve offer (counterpart.refersTo refers rfl held) led
          have fewer := remaining_cons_lt member held fresh
          exact ih own member' (by omega) (by omega)

/-- The allowance of a chain does not matter once it exceeds the number of components by
more than one. -/
theorem resolveWithin_kindred (refers : contract.refersInto Part.referred = true) {bound bound' : Nat}
    {raw' : Node} (kindred : Node.Kindred offer contract kind raw raw')
    (enough : (shelf kind contract).length < bound) (enough' : (shelf kind contract).length < bound') :
    resolveWithin (.root 0 contract) [] (bound + 1) raw =
      resolveWithin (.root 0 contract) [] (bound' + 1) raw := by
  obtain ⟨part, referred, counterpart⟩ := kindred
  refine resolveWithin_succ_congr fun text next held fresh led => ?_
  obtain ⟨own, name, member⟩ :=
    component_of_resolve offer (counterpart.refersTo refers referred held) led
  exact resolveWithin_entry refers own member
    (Nat.lt_of_le_of_lt (remaining_le_length ..) enough)
    (Nat.lt_of_le_of_lt (remaining_le_length ..) enough')

/-! ## Chains in an enriched contract -/

/-- With the same allowance chains lead from counterparts to counterparts. -/
theorem agree_resolveWithin (refers : contract.refersInto Part.referred = true)
    {document' raw' : Node} (root : Node.Counterpart offer contract .contract document document')
    (kindred : Node.Kindred offer contract kind raw raw') (seen : List Json) (bound : Nat) :
    Agree (Node.Kindred offer contract kind) (resolveWithin document seen bound raw)
      (resolveWithin document' seen bound raw') := by
  induction bound generalizing seen raw raw' with
  | zero => exact .error
  | succ bound ih =>
      obtain ⟨part, referred, counterpart⟩ := kindred
      have unwritten : part.writes "$ref" = false :=
        part.writes_of_not_mem (by decide)
      unfold resolveWithin
      rw [counterpart.holds unwritten,
        counterpart.required_eq unwritten (Part.quiet_ref_of_referred referred)]
      refine .read rfl fun isReference _ => ?_
      split
      · exact .ok ⟨part, referred, counterpart⟩
      refine .read rfl fun node held => .read rfl fun ref isKey => ?_
      obtain rfl := Json.eq_of_key isKey
      split
      · exact .error
      cases isText : node.value with
      | str text =>
          have refersTo := counterpart.refersTo refers referred (isText ▸ Node.value_of_required held)
          exact (root.resolve refersTo).bind fun _ _ own => ih ⟨_, rfl, own⟩ _
      | _ => exact .error

/-- Chains lead from counterparts to counterparts. -/
theorem agree_resolve (refers : contract.refersInto Part.referred = true)
    {builder builder' : SignatureBuilder} {raw raw' : Node} {enriched : Json}
    (here : builder.document = .root 0 contract) (there : builder'.document = .root 0 enriched)
    (own : contract.Enriched offer .contract enriched)
    (kindred : Node.Kindred offer contract kind raw raw') :
    Agree (Node.Kindred offer contract kind) (builder.resolve raw) (builder'.resolve raw') := by
  have few : (shelf kind contract).length ≤ contract.weight := Json.length_shelf_le_weight kind contract
  have few' : (shelf kind contract).length ≤ enriched.weight := by
    rw [← Json.length_shelf_enriched own kind]
    exact Json.length_shelf_le_weight kind enriched
  unfold resolve
  rw [here, there]
  have same := resolveWithin_kindred refers kindred (Nat.lt_succ_of_le few) (Nat.lt_succ_of_le few')
  rw [show (Node.root 0 contract).value.weight + 2 = contract.weight + 1 + 1 from rfl, same]
  exact agree_resolveWithin refers (.root own) kindred [] (enriched.weight + 2)

end SignatureBuilder

end TypedContract
