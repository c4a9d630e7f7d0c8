/-
# TypedContract.Proofs.Signature.Resolving -- where a chain of references ends

A part of a document may be a reference instead, and what that leads to may be one again.
`RefChain` is the chain that they make: from a part over the texts of its references to another.
The builder goes along the chain until there is no reference, a reference leads nowhere, or one
comes again.  `Resolves` is that loop without the bound that the builder gives it.

The bound never stops the loop (`resolves_resolveWithin`).  Each step notes a text that was not
noted before.  The first may come from anywhere, but all others stand in the document, which has
no more texts than it has values (`length_texts_le_weight`).

What the loop returns is then decided by the chain alone.  Where the chain cannot go on, every
chain from the same start is a beginning of it (`RefChain.beginning`) and no reference comes twice
(`RefChain.nodup`), so an honest chain of any length is told apart from one that runs in a circle
(`Resolves.eq_ok_iff`, `Resolves.exists_missing_iff`).
-/
import TypedContract.Proofs.Json.Pointer
import TypedContract.Proofs.Signature.Chain
import Mathlib.Data.List.Nodup
import Mathlib.Data.List.Perm.Subperm

namespace TypedContract

set_option autoImplicit false

/-! ## Texts in a document -/

namespace Json

mutual

/-- The texts in nested objects. -/
def texts : Json → List String
  | .str text => [text]
  | .object entries => entriesTexts entries
  | _ => []

/-- The texts in the values of an object. -/
def entriesTexts : List (String × Json) → List String
  | [] => []
  | (_, value) :: rest => texts value ++ entriesTexts rest

end

mutual

theorem length_texts_le_weight : (value : Json) → value.texts.length ≤ value.weight
  | .object entries => by
      rw [texts, weight]
      exact Nat.le_succ_of_le (length_entriesTexts_le entries)
  | .str _ => by simp [texts, weight]
  | .null | .bool _ | .int _ | .double _ | .list _ => by simp [texts]

theorem length_entriesTexts_le :
    (entries : List (String × Json)) → (entriesTexts entries).length ≤ entriesWeight entries
  | [] => Nat.le_refl 0
  | (_, value) :: rest => by
      rw [entriesTexts, entriesWeight, List.length_append]
      exact Nat.add_le_add (length_texts_le_weight value) (length_entriesTexts_le rest)

end

variable {name text : String} {value : Json} {entries : List (String × Json)}

theorem texts_subset_of_mem (member : (name, value) ∈ entries) :
    value.texts ⊆ entriesTexts entries := by
  induction entries with
  | nil => cases member
  | cons entry rest ih =>
      rw [entriesTexts]
      rcases List.mem_cons.1 member with rfl | inside
      · exact List.subset_append_left _ _
      · exact List.Subset.trans (ih inside) (List.subset_append_right _ _)

theorem mem_texts_of_find? (found : find? name value.held = some (.str text)) :
    text ∈ value.texts := by
  cases value with
  | object entries =>
      rw [texts]
      exact texts_subset_of_mem (mem_of_find? found) (by simp [texts])
  | _ => cases found

end Json

/-- What keys lead to has no texts of its own. -/
theorem Node.KeysLead.texts_subset {node found : Node} {names : List String}
    (leads : node.KeysLead names found) : found.value.texts ⊆ node.value.texts := by
  induction leads with
  | here => exact List.Subset.refl _
  | through object held _ ih =>
      rw [object, Json.texts]
      exact List.Subset.trans ih (Json.texts_subset_of_mem (Json.mem_of_find? (value_of_find? held)))

namespace SignatureBuilder

variable {document raw node last : Node} {ref : Json} {text : String} {texts texts' : List String}

/-! ## Chains -/

/-- What stands in the part for a reference. -/
def reference? (raw : Node) : Option Json := Json.find? "$ref" raw.value.held

theorem exists_object (refers : reference? raw = some ref) :
    ∃ entries, raw.value = .object entries := by
  unfold reference? at refers
  cases object : raw.value with
  | object entries => exact ⟨entries, rfl⟩
  | _ => rw [object] at refers; cases refers

/-- The references of these texts lead from a part of the document to another. -/
inductive RefChain (document : Node) : Node → List String → Node → Prop where
  | here {raw : Node} : RefChain document raw [] raw
  | step {raw next last : Node} {text : String} {texts : List String}
      (refers : reference? raw = some (.str text))
      (led : Pointer.resolve document (.str text) = .ok next)
      (rest : RefChain document next texts last) :
      RefChain document raw (text :: texts) last

/-- No reference leads on from the part. -/
def Final (document raw : Node) : Prop :=
  ∀ text next, reference? raw = some (.str text) → Pointer.resolve document (.str text) ≠ .ok next

namespace RefChain

/-- A chain that cannot go on has every chain from its start as its beginning. -/
theorem beginning (leads : RefChain document raw texts last) (final : Final document last)
    (leads' : RefChain document raw texts' node) :
    ∃ more, texts = texts' ++ more ∧ RefChain document node more last := by
  induction leads' generalizing texts with
  | here => exact ⟨texts, rfl, leads⟩
  | step refers led _ ih =>
      cases leads with
      | here => exact absurd led (final _ _ refers)
      | step refers' led' rest =>
          cases refers.symm.trans refers'
          cases led.symm.trans led'
          obtain ⟨more, rfl, further⟩ := ih rest
          exact ⟨more, rfl, further⟩

/-- A chain has one part at which it cannot go on. -/
theorem eq_of_final (leads : RefChain document raw texts last) (final : Final document last)
    (leads' : RefChain document raw texts' node) (final' : Final document node) : last = node := by
  obtain ⟨more, -, further⟩ := leads.beginning final leads'
  cases further with
  | here => rfl
  | step refers led rest => exact absurd led (final' _ _ refers)

/-- A text of a chain leads further on, by a part of the chain. -/
theorem exists_of_mem (leads : RefChain document raw texts last) (member : text ∈ texts) :
    ∃ next after, Pointer.resolve document (.str text) = .ok next ∧
      RefChain document next after last ∧ after.length < texts.length := by
  induction leads with
  | here => cases member
  | @step raw next last own texts refers led rest ih =>
      rcases List.mem_cons.1 member with rfl | inside
      · exact ⟨next, texts, led, rest, Nat.lt_succ_self _⟩
      · obtain ⟨next, after, led, further, shorter⟩ := ih inside
        exact ⟨next, after, led, further, Nat.lt_succ_of_lt shorter⟩

/-- In a chain that cannot go on no reference comes twice. -/
theorem nodup (leads : RefChain document raw texts last) (final : Final document last) :
    texts.Nodup := by
  induction leads with
  | here => exact List.nodup_nil
  | step refers led rest ih =>
      refine List.nodup_cons.2 ⟨fun again => ?_, ih final⟩
      obtain ⟨next, after, led', further, shorter⟩ := rest.exists_of_mem again
      cases led.symm.trans led'
      -- from the second time on the chain would be as long as from the first
      obtain ⟨more, same, -⟩ := further.beginning final rest
      rw [same, List.length_append] at shorter
      omega

/-- A reference on the chain is the one at its start or stands in the document. -/
theorem mem_texts (leads : RefChain document raw texts node)
    (refers : reference? node = some (.str text)) :
    reference? raw = some (.str text) ∨ text ∈ document.value.texts := by
  induction leads with
  | here => exact .inl refers
  | step _ led _ ih =>
      rcases ih refers with own | inside
      · obtain ⟨names, -, through⟩ := Pointer.exists_keysLead_of_resolve led
        exact .inr (through.texts_subset (Json.mem_texts_of_find? own))
      · exact .inr inside

end RefChain

/-! ## The loop -/

/-- The fault of a reference that is no text. -/
def unsuited (ref : Json) : Fault := if ref.isKey then .noMember else .unsuitable

theorem unsuited_cases (ref : Json) : unsuited ref = .noMember ∨ unsuited ref = .unsuitable := by
  unfold unsuited
  split
  · exact .inl rfl
  · exact .inr rfl

/-- What comes of stopping at a part, with the references of these texts followed before. -/
inductive Stops (document : Node) (seen : List String) (raw : Node) : Except Fault Node → Prop where
  | found (none : reference? raw = none) : Stops document seen raw (.ok raw)
  | noText {ref : Json} (refers : reference? raw = some ref) (apart : ∀ text, ref ≠ .str text) :
      Stops document seen raw (.error (unsuited ref))
  | again {text : String} (refers : reference? raw = some (.str text)) (met : text ∈ seen) :
      Stops document seen raw (.error (.missingKey text))
  | nowhere {text : String} (refers : reference? raw = some (.str text))
      (lost : ∀ next, Pointer.resolve document (.str text) ≠ .ok next) :
      Stops document seen raw (.error (.missingKey text))

/-- Following references with the texts met so far, for as long as it takes. -/
inductive Resolves (document : Node) : List String → Node → Except Fault Node → Prop where
  | stop {seen : List String} {raw : Node} {outcome : Except Fault Node}
      (stops : Stops document seen raw outcome) : Resolves document seen raw outcome
  | step {seen : List String} {raw next : Node} {text : String} {outcome : Except Fault Node}
      (refers : reference? raw = some (.str text)) (fresh : text ∉ seen)
      (led : Pointer.resolve document (.str text) = .ok next)
      (rest : Resolves document (text :: seen) next outcome) : Resolves document seen raw outcome

section

variable {seen seen' : List String} {outcome outcome' : Except Fault Node}

namespace Stops

theorem mono (stops : Stops document seen raw outcome) (more : seen ⊆ seen') :
    Stops document seen' raw outcome := by
  cases stops with
  | found none => exact .found none
  | noText refers apart => exact .noText refers apart
  | again refers met => exact .again refers (more met)
  | nowhere refers lost => exact .nowhere refers lost

theorem unique (stops : Stops document seen raw outcome) (stops' : Stops document seen raw outcome') :
    outcome = outcome' := by
  cases stops <;> cases stops' <;> grind

/-- Where a fresh reference leads on, the loop does not stop. -/
theorem elim (stops : Stops document seen raw outcome) (refers : reference? raw = some (.str text))
    (fresh : text ∉ seen) (led : Pointer.resolve document (.str text) = .ok node) : False := by
  cases stops <;> grind

theorem ne_endless (stops : Stops document seen raw outcome) : outcome ≠ .error .endless := by
  intro same
  cases stops with
  | found none => cases same
  | noText refers apart => rcases unsuited_cases _ with own | own <;> rw [own] at same <;> cases same
  | again refers met => cases same
  | nowhere refers lost => cases same

end Stops

namespace Resolves

/-- The loop has one outcome. -/
theorem unique (resolves : Resolves document seen raw outcome)
    (resolves' : Resolves document seen raw outcome') : outcome = outcome' := by
  induction resolves with
  | stop stops =>
      cases resolves' with
      | stop stops' => exact stops.unique stops'
      | step refers fresh led rest => exact (stops.elim refers fresh led).elim
  | step refers fresh led rest ih =>
      cases resolves' with
      | stop stops => exact (stops.elim refers fresh led).elim
      | step refers' fresh' led' rest' =>
          cases refers.symm.trans refers'
          cases led.symm.trans led'
          exact ih rest'

/-- The loop goes along a chain of fresh references, each once, and stops at its end. -/
theorem exists_refChain (resolves : Resolves document seen raw outcome) :
    ∃ texts node, RefChain document raw texts node ∧ texts.Nodup ∧ (∀ text ∈ texts, text ∉ seen) ∧
      Stops document (texts ++ seen) node outcome := by
  induction resolves with
  | stop stops => exact ⟨[], _, .here, List.nodup_nil, nofun, stops⟩
  | @step seen raw next text outcome refers fresh led rest ih =>
      obtain ⟨texts, node, leads, once, apart, stops⟩ := ih
      refine ⟨text :: texts, node, .step refers led leads, List.nodup_cons.2 ⟨?_, once⟩, ?_, ?_⟩
      · exact fun again => apart text again List.mem_cons_self
      · refine List.forall_mem_cons.2 ⟨fresh, fun other member met => ?_⟩
        exact apart other member (List.mem_cons_of_mem _ met)
      · exact stops.mono List.perm_middle.subset

theorem ne_endless (resolves : Resolves document seen raw outcome) : outcome ≠ .error .endless := by
  induction resolves with
  | stop stops => exact stops.ne_endless
  | step _ _ _ _ ih => exact ih

end Resolves

/-! ## The bound -/

theorem resolveWithin_of_none {entries : List (String × Json)} (object : raw.value = .object entries)
    (none : reference? raw = none) (seen : List Json) (bound : Nat) :
    resolveWithin document seen (bound + 1) raw = .ok raw := by
  rw [reference?] at none
  rw [resolveWithin, Json.holds_of_object object, none]
  rfl

/-- One round of the builder's loop at a reference. -/
theorem resolveWithin_of_some (refers : reference? raw = some ref) (seen : List Json) (bound : Nat) :
    resolveWithin document seen (bound + 1) raw = (ref.key >>= fun key =>
      if seen.any (Json.same key) then .error (.missingKey key.plain)
      else Pointer.resolve document key >>= resolveWithin document (key :: seen) bound) := by
  obtain ⟨entries, object⟩ := exists_object refers
  rw [reference?, object, Json.held] at refers
  obtain ⟨node, held, rfl⟩ := Node.exists_required_of_find? object refers
  rw [resolveWithin, Json.holds_of_object object, object, Json.held, refers, held]
  rfl

/-- A value was met when it is one of the texts met. -/
theorem any_same_iff :
    (seen.map Json.str).any (Json.same ref) = true ↔ ∃ text ∈ seen, ref = .str text := by
  rw [List.any_map, List.any_eq_true]
  exact exists_congr fun text => and_congr_right fun _ => Json.same_text_iff

theorem resolveWithin_of_text (refers : reference? raw = some (.str text)) (bound : Nat) :
    resolveWithin document (seen.map .str) (bound + 1) raw =
      if text ∈ seen then .error (.missingKey text)
      else Pointer.resolve document (.str text) >>=
        resolveWithin document ((text :: seen).map .str) bound := by
  have met : (seen.map Json.str).any (Json.same (.str text)) = true ↔ text ∈ seen := by
    rw [any_same_iff]
    simp
  rw [resolveWithin_of_some refers]
  exact if_congr met rfl rfl

theorem resolveWithin_of_noText (refers : reference? raw = some ref) (apart : ∀ text, ref ≠ .str text)
    (bound : Nat) :
    resolveWithin document (seen.map .str) (bound + 1) raw = .error (unsuited ref) := by
  have fresh : ¬ (seen.map Json.str).any (Json.same ref) = true := by
    rw [any_same_iff]
    rintro ⟨text, -, same⟩
    exact apart text same
  have lost : Pointer.resolve document ref = .error .noMember := by
    cases ref with
    | str text => exact absurd rfl (apart text)
    | _ => rfl
  rw [resolveWithin_of_some refers, unsuited, Json.key]
  by_cases isKey : ref.isKey = true
  · rw [if_pos isKey, if_pos isKey, except_ok_bind, if_neg fresh, lost]
    rfl
  · rw [if_neg isKey, if_neg isKey]
    rfl

/-- The bound does not stop the loop as long as it allows for every text that may be met. -/
theorem resolves_resolveWithin (pool : List String) {bound : Nat}
    (objects : ∀ texts node, RefChain document raw texts node →
      ∃ entries, node.value = .object entries)
    (inside : ∀ texts node text, RefChain document raw texts node →
      reference? node = some (.str text) → text ∈ pool)
    (once : seen.Nodup) (noted : seen ⊆ pool) (room : pool.length < bound + seen.length) :
    Resolves document seen raw (resolveWithin document (seen.map .str) bound raw) := by
  induction bound generalizing seen raw with
  | zero =>
      -- more references would have been met than there are, and none of them twice
      have few := (once.subperm noted).length_le
      omega
  | succ bound ih =>
      cases refers : reference? raw with
      | none =>
          obtain ⟨entries, object⟩ := objects _ _ .here
          rw [resolveWithin_of_none object refers]
          exact .stop (.found refers)
      | some ref =>
          by_cases isText : ∃ text, ref = .str text
          · obtain ⟨text, rfl⟩ := isText
            rw [resolveWithin_of_text refers]
            by_cases met : text ∈ seen
            · rw [if_pos met]
              exact .stop (.again refers met)
            · rw [if_neg met]
              cases led : Pointer.resolve document (.str text) with
              | error fault =>
                  obtain rfl := Pointer.fault_of_resolve led
                  refine .stop (.nowhere refers fun next found => ?_)
                  cases led.symm.trans found
              | ok next =>
                  have rest : Resolves document (text :: seen) next
                      (resolveWithin document ((text :: seen).map .str) bound next) := by
                    apply ih
                    · intro texts node leads
                      exact objects _ _ (.step refers led leads)
                    · intro texts node other leads
                      exact inside _ _ _ (.step refers led leads)
                    · exact List.nodup_cons.2 ⟨met, once⟩
                    · exact List.cons_subset.2 ⟨inside _ _ _ .here refers, noted⟩
                    · rw [List.length_cons]
                      omega
                  exact .step refers met led rest
          · have apart := not_exists.1 isText
            rw [resolveWithin_of_noText refers apart]
            exact .stop (.noText refers apart)

/-- With two steps more than the document has values the bound does not stop the loop: one is
for the first reference, which need not stand in the document, one for the part at the end. -/
theorem resolves_of_weight_le {bound : Nat}
    (objects : ∀ texts node, RefChain document raw texts node →
      ∃ entries, node.value = .object entries)
    (room : document.value.weight + 2 ≤ bound) :
    Resolves document [] raw (resolveWithin document [] bound raw) := by
  obtain ⟨first, own⟩ : ∃ first, ∀ text, reference? raw = some (.str text) → text = first := by
    by_cases isText : ∃ text, reference? raw = some (.str text)
    · obtain ⟨first, refers⟩ := isText
      refine ⟨first, fun text refers' => ?_⟩
      cases refers.symm.trans refers'
      rfl
    · exact ⟨"", fun text refers => absurd ⟨text, refers⟩ isText⟩
  refine resolves_resolveWithin (first :: document.value.texts) objects ?_ List.nodup_nil
    (List.nil_subset _) ?_
  · intro texts node text leads refers
    rcases leads.mem_texts refers with here | inside
    · rw [own text here]
      exact List.mem_cons_self
    · exact List.mem_cons_of_mem _ inside
  · have few := Json.length_texts_le_weight document.value
    rw [List.length_cons, List.length_nil]
    omega

/-! ## Ends -/

theorem final_of_none (none : reference? node = none) : Final document node := by
  intro text next refers
  cases none.symm.trans refers

/-- A chain to an object that is no reference passes objects only, as references are members of
objects. -/
theorem RefChain.objects (chain : RefChain document raw texts last)
    (object : ∃ entries, last.value = .object entries) (none : reference? last = none) :
    ∀ texts' node, RefChain document raw texts' node → ∃ entries, node.value = .object entries := by
  intro texts' node before
  obtain ⟨more, -, further⟩ := chain.beginning (final_of_none none) before
  cases further with
  | here => exact object
  | step refers _ _ => exact exists_object refers

theorem final_of_noText (refers : reference? node = some ref) (apart : ∀ text, ref ≠ .str text) :
    Final document node := by
  intro text next refers'
  cases refers.symm.trans refers'
  exact absurd rfl (apart text)

theorem final_of_lost (refers : reference? node = some (.str text))
    (lost : ∀ next, Pointer.resolve document (.str text) ≠ .ok next) : Final document node := by
  intro other next refers'
  cases refers.symm.trans refers'
  exact lost next

namespace Resolves

/-- The loop returns what stands at the end of the chain. -/
theorem eq_ok_iff (resolves : Resolves document [] raw outcome) :
    outcome = .ok node ↔ (∃ texts, RefChain document raw texts node) ∧ reference? node = none := by
  obtain ⟨texts, last, leads, once, -, stops⟩ := resolves.exists_refChain
  constructor
  · rintro rfl
    cases stops with
    | found none => exact ⟨⟨texts, leads⟩, none⟩
  · rintro ⟨⟨texts', leads'⟩, none⟩
    have final : Final document node := final_of_none none
    cases stops with
    | found none' => rw [leads.eq_of_final (final_of_none none') leads' final]
    | noText refers apart =>
        obtain rfl := leads.eq_of_final (final_of_noText refers apart) leads' final
        cases none.symm.trans refers
    | nowhere refers lost =>
        obtain rfl := leads.eq_of_final (final_of_lost refers lost) leads' final
        cases none.symm.trans refers
    | again refers met =>
        -- the chain to the end goes on with the reference that came before
        obtain ⟨more, rfl, further⟩ := leads'.beginning final leads
        cases further with
        | here => cases none.symm.trans refers
        | step refers' led rest =>
            cases refers.symm.trans refers'
            rw [List.append_nil] at met
            exact (List.disjoint_of_nodup_append (leads'.nodup final) met List.mem_cons_self).elim

/-- The loop misses a key exactly when the chain meets a reference that leads nowhere or that it
met before. -/
theorem exists_missing_iff (resolves : Resolves document [] raw outcome) :
    (∃ key, outcome = .error (.missingKey key)) ↔
      ∃ texts node text, RefChain document raw texts node ∧ reference? node = some (.str text) ∧
        (text ∈ texts ∨ ∀ next, Pointer.resolve document (.str text) ≠ .ok next) := by
  obtain ⟨texts, last, leads, once, -, stops⟩ := resolves.exists_refChain
  rw [List.append_nil] at stops
  constructor
  · rintro ⟨key, rfl⟩
    generalize same : Except.error (Fault.missingKey key) = outcome at stops
    cases stops with
    | found none => cases same
    | noText refers apart =>
        rcases unsuited_cases _ with own | own <;> rw [own] at same <;> cases same
    | again refers met => exact ⟨texts, last, _, leads, refers, .inl met⟩
    | nowhere refers lost => exact ⟨texts, last, _, leads, refers, .inr lost⟩
  · rintro ⟨texts', node, text, leads', refers, bad⟩
    -- no chain that ends without such a reference passes one
    have passes (final : Final document last) (apart : reference? last ≠ some (.str text)) :
        False := by
      obtain ⟨more, rfl, further⟩ := leads.beginning final leads'
      cases further with
      | here => exact apart refers
      | step refers' led rest =>
          cases refers.symm.trans refers'
          rcases bad with met | lost
          · exact List.disjoint_of_nodup_append once met List.mem_cons_self
          · exact lost _ led
    cases stops with
    | found none => exact (passes (final_of_none none) (by simp [none])).elim
    | noText refers apart =>
        exact (passes (final_of_noText refers apart) (by simpa [refers] using apart text)).elim
    | again refers met => exact ⟨_, rfl⟩
    | nowhere refers lost => exact ⟨_, rfl⟩

end Resolves

end

/-- The builder's loop over a chain of references that passes objects only ends before its bound
does, with the part without a reference at the end of the chain if there is one, and with a missing
key exactly when the chain meets a reference that leads nowhere or one that it met before. -/
theorem resolve_chain (builder : SignatureBuilder) (raw : Node)
    (objects : ∀ texts node, RefChain builder.document raw texts node →
      ∃ entries, node.value = .object entries) :
    (builder.resolve raw ≠ .error .endless ∧
      ∀ bound, builder.document.value.weight + 2 ≤ bound →
        resolveWithin builder.document [] bound raw = builder.resolve raw) ∧
    (∀ node, builder.resolve raw = .ok node ↔
      (∃ texts, RefChain builder.document raw texts node) ∧ reference? node = none) ∧
    ((∃ key, builder.resolve raw = .error (.missingKey key)) ↔
      ∃ texts node text, RefChain builder.document raw texts node ∧
        reference? node = some (.str text) ∧
        (text ∈ texts ∨ ∀ next, Pointer.resolve builder.document (.str text) ≠ .ok next)) := by
  have resolves : Resolves builder.document [] raw (builder.resolve raw) :=
    resolves_of_weight_le objects (Nat.le_refl _)
  refine ⟨⟨resolves.ne_endless, fun bound room => ?_⟩, ?_, ?_⟩
  · exact (resolves_of_weight_le objects room).unique resolves
  · intro node
    exact resolves.eq_ok_iff
  · exact resolves.exists_missing_iff

/-- A parameter under a name with a `/`, which refers to another one; and one that refers to
itself under its other spelling. -/
def referringParameters : Json :=
  .object [("components", .object [("parameters", .object [
    ("page/size", .object [("$ref", .str "#/components/parameters/limit")]),
    ("limit", .object [("name", .str "limit"), ("in", .str "query")]),
    ("~", .object [("$ref", .str "#/components/parameters/~0")])])])]

/-- A builder for a document without schemas. -/
def builderFor (contract : Json) : SignatureBuilder :=
  { document := .root 0 contract, translator := ⟨Translation.Ties.within (.free (.object [])) 1⟩ }

/-- A part that is a reference. -/
def referTo (text : String) : Node := .free (.object [("$ref", .str text)])

theorem resolve_chain_escaped :
    (∀ texts node, RefChain (builderFor referringParameters).document
        (referTo "#/components/parameters/page~1size") texts node →
      ∃ entries, node.value = .object entries) ∧
    ∃ node, (builderFor referringParameters).resolve
        (referTo "#/components/parameters/page~1size") = .ok node ∧
      node.value.under "name" = .str "limit" := by
  let document := (builderFor referringParameters).document
  let raw := referTo "#/components/parameters/page~1size"
  obtain ⟨second, led, refers⟩ : ∃ second, Pointer.resolve document
      (.str "#/components/parameters/page~1size") = .ok second ∧
      second.value = .object [("$ref", .str "#/components/parameters/limit")] := ⟨_, rfl, rfl⟩
  obtain ⟨last, led', limit⟩ : ∃ last, Pointer.resolve document
      (.str "#/components/parameters/limit") = .ok last ∧
      last.value = .object [("name", .str "limit"), ("in", .str "query")] := ⟨_, rfl, rfl⟩
  have second? : reference? second = some (.str "#/components/parameters/limit") := by
    rw [reference?, refers]
    rfl
  have last? : reference? last = none := by
    rw [reference?, limit]
    rfl
  have whole : RefChain document raw _ last := .step rfl led (.step second? led' .here)
  have objects := whole.objects ⟨_, limit⟩ last?
  refine ⟨objects, last, ?_, by rw [limit]; rfl⟩
  obtain ⟨-, ends, -⟩ := resolve_chain (builderFor referringParameters) raw objects
  exact (ends last).2 ⟨⟨_, whole⟩, last?⟩

example : (builderFor referringParameters).resolve (referTo "#/components/parameters/~") =
    .error (.missingKey "#/components/parameters/~0") := by
  rfl

end SignatureBuilder

end TypedContract
