/-
# TypedContract.Proofs.Schema.Nesting -- how deep a schema is parsed

What is found in a node nests less deep than the node, apart from the texts that a walk
meets instead of schemas.  So a schema that was parsed to some depth is parsed the same to
any depth that its value does not exceed (`parseWithin_of_depth_lt`), and a part whose
children are those of another part is parsed like it (`ParsedBy.transport`).
-/
import TypedContract.Proofs.Schema.Parsing

namespace TypedContract

set_option autoImplicit false

namespace Json

variable {items : List Json} {entries : List (String × Json)}

/-! ## Depths -/

theorem depth_pos (value : Json) : 0 < value.depth := by
  cases value with
  | list items => exact Nat.succ_pos _
  | object entries => exact Nat.succ_pos _
  | _ => exact Nat.one_pos

theorem depth_le_itemsDepth {item : Json} (member : item ∈ items) : item.depth ≤ itemsDepth items := by
  induction items with
  | nil => cases member
  | cons first rest ih =>
      rw [itemsDepth]
      rcases List.mem_cons.1 member with rfl | inside
      · exact Nat.le_max_left _ _
      · exact Nat.le_trans (ih inside) (Nat.le_max_right _ _)

theorem depth_le_entriesDepth {name : String} {value : Json} (member : (name, value) ∈ entries) :
    value.depth ≤ entriesDepth entries := by
  induction entries with
  | nil => cases member
  | cons first rest ih =>
      rw [entriesDepth]
      rcases List.mem_cons.1 member with rfl | inside
      · exact Nat.le_max_left _ _
      · exact Nat.le_trans (ih inside) (Nat.le_max_right _ _)

/-- Each step of a path leads one layer deeper. -/
theorem depth_of_at? {path : List Nat} {value found : Json} (here : value.at? path = some found) :
    found.depth + path.length ≤ value.depth := by
  induction path generalizing value with
  | nil =>
      cases here
      exact Nat.le_refl _
  | cons position path ih =>
      cases value with
      | list items =>
          obtain ⟨item, held, inside⟩ := Option.bind_eq_some_iff.1 here
          exact Nat.succ_le_succ
            (Nat.le_trans (ih inside) (depth_le_itemsDepth (List.mem_of_getElem? held)))
      | object entries =>
          obtain ⟨entry, held, inside⟩ := Option.bind_eq_some_iff.1 here
          exact Nat.succ_le_succ
            (Nat.le_trans (ih inside) (depth_le_entriesDepth (List.mem_of_getElem? held)))
      | _ => cases here

end Json

/-- A part nests less deep than the whole. -/
theorem Node.Inside.depth_lt {inner outer : Node} (inside : inner.Inside outer) :
    inner.value.depth < outer.value.depth := by
  obtain ⟨path, some_, here, -⟩ := inside
  exact Nat.lt_of_lt_of_le (Nat.lt_add_of_pos_right (List.length_pos_iff.2 some_))
    (Json.depth_of_at? here)

namespace Schema

variable {node node' : Node} {entries entries' : List (String × Json)} {schema : Schema}
  {bound bound' : Nat}

/-! ## The parse of a layer -/

theorem parseWithin_null (null : node.value = .null) {facts : Facts}
    (made : factsOf (.free (.object [])) [] = .ok facts) :
    parseWithin (bound + 1) node = .ok (.mk facts none [] none []) := by
  rw [parseWithin, null]
  exact except_bind_eq_ok.2 ⟨facts, made, rfl⟩

theorem parseWithin_reference (object : node.value = .object entries) {facts : Facts}
    (made : factsOf node entries = .ok facts) (reference : facts.kind = .reference) :
    parseWithin (bound + 1) node = .ok (.mk facts none [] none []) := by
  rw [parseWithin, object]
  refine except_bind_eq_ok.2 ⟨facts, made, ?_⟩
  rw [reference]
  rfl

theorem ParsedBy.parseWithin_eq (parsed : ParsedBy (parseWithin bound) node entries schema)
    (object : node.value = .object entries) (apart : schema.facts.kind ≠ .reference) :
    parseWithin (bound + 1) node = .ok schema := by
  obtain ⟨nodes, combined, members⟩ := parsed.members
  obtain ⟨held, inner, found, walked, properties⟩ := parsed.properties
  obtain ⟨further, more, additional⟩ := parsed.additional
  have items : (node.find? "items" entries).mapM (parseWithin bound) = .ok schema.items := by
    refine option_mapM_eq_ok_iff.2 (parsed.items.imp id ?_)
    rintro ⟨inner, sub, found, held, inside⟩
    exact ⟨inner, sub, found, held, inside⟩
  have named : inner.mapM (fun entry => do return (entry.1, ← parseWithin bound entry.2)) =
      .ok schema.properties := by
    refine mapM_eq_ok_iff.2 (properties.imp fun entry property => ?_)
    rintro ⟨same, inside⟩
    exact except_bind_eq_ok.2 ⟨property.2, inside, except_pure_eq_ok.2 (Prod.ext same rfl)⟩
  have apart' : ¬ (schema.facts.kind == .reference) = true := by simpa using apart
  rw [parseWithin, object]
  refine except_bind_eq_ok.2 ⟨schema.facts, parsed.facts, ?_⟩
  rw [if_neg apart']
  refine except_bind_eq_ok.2 ⟨nodes, combined, ?_⟩
  refine except_bind_eq_ok.2 ⟨schema.members, mapM_eq_ok_iff.2 members, ?_⟩
  refine except_bind_eq_ok.2 ⟨schema.items, items, except_bind_eq_ok.2 ⟨held, found, ?_⟩⟩
  refine except_bind_eq_ok.2 ⟨inner, walked, except_bind_eq_ok.2 ⟨schema.properties, named, ?_⟩⟩
  refine except_bind_eq_ok.2 ⟨further, more, ?_⟩
  obtain ⟨facts, items?, properties?, additional?, members?⟩ := schema
  rcases additional with ⟨missing, absent⟩ | ⟨sub, found, held, object, inside⟩
  · obtain rfl : additional? = none := missing
    cases kind : further.value with
    | object found => exact absurd kind (absent found)
    | _ => rfl
  · obtain rfl : additional? = some sub := held
    rw [object]
    dsimp only
    rw [inside]
    rfl

/-- A part whose children are those of another part is parsed like it, when its properties
are and when the depth suffices for whatever nests less deep. -/
theorem ParsedBy.transport {child child' : Node → Except Fault Schema} {facts' : Facts}
    {properties' : List (String × Schema)} (parsed : ParsedBy child node entries schema)
    (object : node'.value = .object entries')
    (noText : ∀ {inner : Node} {sub : Schema} (text : String), child inner = .ok sub →
      inner.value ≠ .str text)
    (inside : ∀ {inner : Node} {sub : Schema}, inner.value.depth < node'.value.depth →
      child inner = .ok sub → child' inner = .ok sub)
    (made : factsOf node' entries' = .ok facts')
    (combined : memberNodes facts'.kind node' = memberNodes schema.facts.kind node)
    (items : node'.find? "items" entries' = node.find? "items" entries)
    (additional : node'.member "additionalProperties" = node.member "additionalProperties")
    (properties : ∃ held inner, node'.member "properties" = .ok held ∧
      (held.orElse (.object [])).entries = .ok inner ∧
      List.Forall₂ (fun entry sub => entry.1 = sub.1 ∧ child' entry.2 = .ok sub.2) inner properties') :
    ParsedBy child' node' entries'
      (.mk facts' schema.items properties' schema.additional schema.members) where
  facts := made
  members := by
    obtain ⟨nodes, walked, members⟩ := parsed.members
    rw [← combined] at walked
    refine ⟨nodes, walked, forall₂_mono_mem members fun inner among sub own => ?_⟩
    exact inside (inside_memberNode walked among fun text => noText text own).depth_lt own
  items := by
    have own := parsed.items
    rw [← items] at own
    refine own.imp id ?_
    rintro ⟨inner, sub, found, held, own⟩
    exact ⟨inner, sub, found, held, inside (Node.inside_find? object found).depth_lt own⟩
  properties := properties
  additional := by
    obtain ⟨further, more, absent | ⟨sub, found, held, isObject, own⟩⟩ := parsed.additional
    · exact ⟨further, additional.trans more, .inl absent⟩
    · have part : further.Inside node' := by
        refine (Node.inside_member (additional.trans more)).resolve_left ?_
        rintro rfl
        cases isObject
      exact ⟨further, additional.trans more,
        .inr ⟨sub, found, held, isObject, inside part.depth_lt own⟩⟩

/-- To any depth that its value does not exceed, a part is parsed the same. -/
theorem parseWithin_of_depth_lt (parsed : parseWithin bound node = .ok schema)
    (deep : node.value.depth < bound') : parseWithin bound' node = .ok schema := by
  induction bound generalizing bound' node schema with
  | zero => cases parsed
  | succ bound ih =>
      obtain ⟨bound', rfl⟩ : ∃ n, bound' = n + 1 := ⟨bound' - 1, by omega⟩
      rcases parseWithin_cases parsed with ⟨null, facts, made, rfl⟩ | ⟨entries, object, inside⟩
      · exact parseWithin_null null made
      · rcases inside with ⟨reference, made, same⟩ | ⟨apart, parsed⟩
        · rw [same]
          exact parseWithin_reference object made reference
        · have child {inner : Node} {sub : Schema} (less : inner.value.depth < node.value.depth)
              (own : parseWithin bound inner = .ok sub) : parseWithin bound' inner = .ok sub :=
            ih own (Nat.lt_of_lt_of_le less (Nat.le_of_lt_succ deep))
          obtain ⟨held, inner, found, walked, properties⟩ := parsed.properties
          have again := parsed.transport object (fun text own => value_ne_str own text) child
            parsed.facts rfl rfl rfl ⟨held, inner, found, walked,
              forall₂_mono_mem properties fun entry among property own =>
                ⟨own.1, child (inside_property found walked among).depth_lt own.2⟩⟩
          cases schema
          exact again.parseWithin_eq object apart

end Schema

end TypedContract
