/-
# TypedContract.Proofs.Schema.Typed -- well-typed schemas

A contract comes with no promise about its shape, and the program faults where a value
has the wrong one.  The dialect gives each keyword of a schema a shape (`shapeOf`), and a
value fits a shape or not (`Json.fits`); `null` counts as absent, except for the members
of an `allOf`.  A value that fits the shape of a schema is one in which each keyword at
any depth has the shape it should have.  Such a value parses, and whatever a translation
reads from the parsed schemas can be read (`exists_parse`).

Two keywords may hold any values, but these are written out: the declared type, when it
is no text, and the listed values, at the end of a description.  An integer with more
digits than a text may have cannot be written, so it has no place there.
-/
import TypedContract.Proofs.Json.Standing
import TypedContract.Proofs.Translation.Rules

namespace TypedContract

set_option autoImplicit false

/-! ## Shapes -/

namespace Schema

/-- What the value of a keyword may be. -/
inductive Shape where
  | anything
  /-- Any value with a text: its integers keep to the limit of digits. -/
  | writable
  | text
  | listOf (item : Shape)
  | mapOf (value : Shape)
  | schema
  /-- A schema; what is no object is a truth value or counts as one. -/
  | schemaOrFlag
  /-- A list of schemas that must be there. -/
  | members

/-- The shape of a keyword; the others are free. -/
def shapeOf : String → Shape
  | "$ref" | "format" | "description" => .text
  | "type" => .writable
  | "required" => .listOf .text
  | "enum" => .listOf .writable
  | "items" => .schema
  | "properties" => .mapOf .schema
  | "additionalProperties" => .schemaOrFlag
  | "oneOf" | "anyOf" => .listOf .schema
  | "allOf" => .members
  | _ => .anything

end Schema

namespace Json

open Schema

mutual

/-- The value has the shape. -/
def fits : Shape → Json → Bool
  | .anything, _ => true
  | .writable, value => (Literal.ofJson value).isWithinDigits
  | .text, .str _ => true
  | .listOf item, .list items => itemsFit item items
  | .mapOf value, .object entries => valuesFit value entries
  | .schema, .object entries => keywordsFit entries
  | .schemaOrFlag, .object entries => keywordsFit entries
  | .schemaOrFlag, _ => true
  | .members, .list items => itemsFit .schema items
  | .members, _ => false
  | _, value => value.isNull

/-- Each item has the shape. -/
def itemsFit (shape : Shape) : List Json → Bool
  | [] => true
  | item :: rest => fits shape item && itemsFit shape rest

/-- The value of each entry has the shape. -/
def valuesFit (shape : Shape) : List (String × Json) → Bool
  | [] => true
  | (_, value) :: rest => fits shape value && valuesFit shape rest

/-- The value of each entry has the shape of its keyword. -/
def keywordsFit : List (String × Json) → Bool
  | [] => true
  | (keyword, value) :: rest => fits (shapeOf keyword) value && keywordsFit rest

end

variable {shape : Shape} {value : Json} {items : List Json} {entries : List (String × Json)}

/-! ## Looking into values that fit -/

theorem fits_null (optional : shape ≠ .members) : Json.null.fits shape = true := by
  cases shape <;> first | rfl | exact absurd rfl optional

theorem text_of_fits (fits : value.fits .text = true) :
    value = .null ∨ ∃ text, value = .str text := by
  cases value with
  | null => exact .inl rfl
  | str text => exact .inr ⟨text, rfl⟩
  | _ => cases fits

theorem list_of_fits {item : Shape} (fits : value.fits (.listOf item) = true) :
    value = .null ∨ ∃ items, value = .list items ∧ itemsFit item items = true := by
  cases value with
  | null => exact .inl rfl
  | list items => exact .inr ⟨items, rfl, by simpa [Json.fits] using fits⟩
  | _ => cases fits

theorem object_of_fits (fits : value.fits (.mapOf shape) = true) :
    value = .null ∨ ∃ entries, value = .object entries ∧ valuesFit shape entries = true := by
  cases value with
  | null => exact .inl rfl
  | object entries => exact .inr ⟨entries, rfl, by simpa [Json.fits] using fits⟩
  | _ => cases fits

theorem fits_of_mem_items (fit : itemsFit shape items = true) (among : value ∈ items) :
    value.fits shape = true ∧ value.depth ≤ itemsDepth items := by
  induction items with
  | nil => cases among
  | cons item rest ih =>
      rw [itemsFit, Bool.and_eq_true] at fit
      rw [itemsDepth]
      rcases List.mem_cons.1 among with rfl | inside
      · exact ⟨fit.1, Nat.le_max_left _ _⟩
      · obtain ⟨fits, deep⟩ := ih fit.2 inside
        exact ⟨fits, Nat.le_trans deep (Nat.le_max_right _ _)⟩

theorem fits_of_mem_values {key : String} (fit : valuesFit shape entries = true)
    (among : (key, value) ∈ entries) :
    value.fits shape = true ∧ value.depth ≤ entriesDepth entries := by
  induction entries with
  | nil => cases among
  | cons entry rest ih =>
      obtain ⟨first, held⟩ := entry
      rw [valuesFit, Bool.and_eq_true] at fit
      rw [entriesDepth]
      rcases List.mem_cons.1 among with same | inside
      · cases same
        exact ⟨fit.1, Nat.le_max_left _ _⟩
      · obtain ⟨fits, deep⟩ := ih fit.2 inside
        exact ⟨fits, Nat.le_trans deep (Nat.le_max_right _ _)⟩

theorem fits_of_keyword {key : String} (fit : keywordsFit entries = true)
    (found : find? key entries = some value) :
    value.fits (shapeOf key) = true ∧ value.depth ≤ entriesDepth entries := by
  induction entries with
  | nil => cases found
  | cons entry rest ih =>
      obtain ⟨first, held⟩ := entry
      rw [keywordsFit, Bool.and_eq_true] at fit
      rw [entriesDepth]
      unfold find? at found
      split at found
      · rename_i same
        cases found
        exact ⟨eq_of_beq same ▸ fit.1, Nat.le_max_left _ _⟩
      · obtain ⟨fits, deep⟩ := ih fit.2 found
        exact ⟨fits, Nat.le_trans deep (Nat.le_max_right _ _)⟩

/-- A keyword that is missing counts as `null`. -/
theorem fits_getD (fit : keywordsFit entries = true) (key : String)
    (optional : shapeOf key ≠ .members) :
    ((find? key entries).getD .null).fits (shapeOf key) = true := by
  cases found : find? key entries with
  | none => exact fits_null optional
  | some value => exact (fits_of_keyword fit found).1

end Json

namespace Schema

/-! ## Facts -/

/-- The result is there to be read. -/
def IsOk (α : Type) (result : Except Fault α) : Prop := ∃ a, result = .ok a

/-- Whatever a translation reads from the schema is there. -/
def Readable : Schema → Prop := Read IsOk

variable {value : Json} {entries : List (String × Json)}

theorem exists_key (fits : value.fits .text = true) : ∃ key, value.key = .ok key := by
  rcases Json.text_of_fits fits with rfl | ⟨text, rfl⟩ <;> exact ⟨_, rfl⟩

theorem exists_declaredType (fits : value.fits .writable = true) :
    ∃ declared, declaredTypeOf value = .ok declared := by
  rw [Json.fits] at fits
  unfold declaredTypeOf
  split
  · exact ⟨_, rfl⟩
  · split
    · rw [Json.writtenWithin, if_pos fits]
      exact ⟨_, rfl⟩
    · exact ⟨_, rfl⟩

theorem exists_strip (fits : value.fits .text = true) :
    ∃ text, strip (value.orElse (.str "")) = .ok text := by
  rcases Json.text_of_fits fits with rfl | ⟨text, rfl⟩
  · exact ⟨_, rfl⟩
  · unfold Json.orElse
    split <;> exact ⟨_, rfl⟩

theorem exists_plainWithin (fits : value.fits .writable = true) :
    ∃ text, value.plainWithin = .ok text := by
  rw [Json.fits] at fits
  exact ⟨_, if_pos fits⟩

/-- The listed values can be read, and each has a text. -/
def Listable (enum : Json) : Prop :=
  ∃ values?, enumValues enum = .ok values? ∧
    ∀ values, values? = some values → ∃ texts, values.mapM Json.plainWithin = .ok texts

theorem listable_of_fits (fits : value.fits (.listOf .writable) = true) : Listable value := by
  unfold Listable enumValues
  split
  · rcases Json.list_of_fits fits with rfl | ⟨items, rfl, fit⟩
    · exact ⟨none, by contradiction⟩
    · refine ⟨some items, rfl, ?_⟩
      rintro _ ⟨⟩
      obtain ⟨texts, listed, -⟩ : ∃ texts, items.mapM Json.plainWithin = .ok texts ∧
          ∀ text ∈ texts, True := by
        refine exists_mapM_eq_ok fun item among => ?_
        obtain ⟨text, own⟩ := exists_plainWithin (Json.fits_of_mem_items fit among).1
        exact ⟨text, own, trivial⟩
      exact ⟨texts, listed⟩
  · exact ⟨none, rfl, nofun⟩

theorem exists_required (fits : value.fits (.listOf .text) = true) :
    ∃ names, ((value.orElse (.list [])).elements >>= fun names => names.mapM Json.key) =
      .ok names := by
  have keyed : ∀ items : List Json, Json.itemsFit .text items = true →
      ∃ names, items.mapM Json.key = .ok names := by
    intro items fit
    obtain ⟨names, listed, -⟩ : ∃ names, items.mapM Json.key = .ok names ∧ ∀ name ∈ names, True := by
      refine exists_mapM_eq_ok fun item among => ?_
      obtain ⟨name, own⟩ := exists_key (Json.fits_of_mem_items fit among).1
      exact ⟨name, own, trivial⟩
    exact ⟨names, listed⟩
  rcases Json.list_of_fits fits with rfl | ⟨items, rfl, fit⟩
  · exact ⟨[], rfl⟩
  · cases items with
    | nil => exact ⟨[], rfl⟩
    | cons item rest => exact keyed _ fit

section

variable {facts : Facts} (listable : Listable facts.enum)

include listable

theorem exists_scalar (fits : facts.format.fits .text = true) :
    ∃ type, Translation.scalar facts = .ok type := by
  obtain ⟨format, keyed⟩ := exists_key fits
  obtain ⟨values?, listed, -⟩ := listable
  unfold Translation.scalar
  cases values? <;>
    exact ⟨_, except_bind_eq_ok.2 ⟨format, keyed, except_bind_eq_ok.2 ⟨_, listed, rfl⟩⟩⟩

theorem exists_describe (described : ∃ text, strip facts.description = .ok text) :
    ∃ text, describe facts = .ok text := by
  obtain ⟨text, described⟩ := described
  obtain ⟨values?, listed, worded⟩ := listable
  have rest : ∀ description, ∃ text, describeValues facts description = .ok text := by
    intro description
    rw [describeValues, listed, except_ok_bind]
    cases values? with
    | none => exact ⟨_, rfl⟩
    | some values =>
        obtain ⟨texts, worded⟩ := worded values rfl
        dsimp only
        rw [worded, except_ok_bind]
        split <;> exact ⟨_, rfl⟩
  unfold describe
  split
  · rw [described]
    exact rest text
  · exact rest ""

end

theorem exists_refName {facts : Facts} (fits : facts.ref.fits .text = true) :
    ∃ name?, facts.refName = .ok name? := by
  unfold Facts.refName
  rcases Json.text_of_fits fits with same | ⟨text, same⟩ <;> rw [same]
  · exact ⟨none, rfl⟩
  · dsimp only
    split <;> exact ⟨_, rfl⟩

/-- A value that fits the shape of a schema has facts, and they can be read. -/
theorem exists_factsOf (node : Node) (fit : Json.keywordsFit entries = true) :
    ∃ facts, factsOf node entries = .ok facts ∧ facts.kind = kindOf entries ∧
      facts.Read IsOk := by
  have texts : ∀ key, shapeOf key = .text →
      ((Json.find? key entries).getD .null).fits .text = true := fun key shape =>
    shape ▸ Json.fits_getD fit key (by rw [shape]; exact nofun)
  obtain ⟨declared, declares⟩ := exists_declaredType (Json.fits_getD fit "type" nofun)
  obtain ⟨required, requires⟩ := exists_required (Json.fits_getD fit "required" nofun)
  obtain ⟨names, walked, keyed⟩ := except_bind_eq_ok.1 requires
  have listable := listable_of_fits (Json.fits_getD fit "enum" nofun)
  obtain ⟨facts, made⟩ : ∃ facts, factsOf node entries = .ok facts := by
    unfold factsOf
    exact ⟨_, except_bind_eq_ok.2 ⟨declared, declares, except_bind_eq_ok.2 ⟨names, walked,
      except_bind_eq_ok.2 ⟨required, keyed, rfl⟩⟩⟩⟩
  have same := made
  unfold factsOf at same
  simp only [except_bind_eq_ok, except_pure_eq_ok] at same
  obtain ⟨declared', _, names', _, required', _, rfl⟩ := same
  have described := exists_strip (texts "description" rfl)
  refine ⟨_, made, rfl, exists_scalar listable (texts "format" rfl), exists_refName ?_, described,
    exists_describe listable described⟩
  dsimp only
  split
  · exact texts "$ref" rfl
  · rfl

/-! ## Children -/

/-- The value has the shape and nests no deeper than the bound. -/
structure FitsWithin (shape : Shape) (bound : Nat) (value : Json) : Prop where
  fits : value.fits shape = true
  deep : value.depth ≤ bound

variable {node held : Node} {bound : Nat}

section

variable (fit : Json.keywordsFit entries = true) (object : node.value = .object entries)
  (deep : Json.entriesDepth entries ≤ bound)

include fit deep

theorem fitsWithin_of_find? {key : String} (found : node.find? key entries = some held) :
    FitsWithin (shapeOf key) bound held.value := by
  obtain ⟨fits, below⟩ := Json.fits_of_keyword fit (Node.value_of_find? found)
  exact ⟨fits, Nat.le_trans below deep⟩

include object

theorem exists_member (key : String) : ∃ held, node.member key = .ok held ∧
    (held.value = .null ∨ FitsWithin (shapeOf key) bound held.value) := by
  refine ⟨(node.find? key entries).getD (.free .null), ?_, ?_⟩
  · rw [Node.member, Node.member?, object]
    rfl
  · cases found : node.find? key entries with
    | none => exact .inl rfl
    | some held => exact .inr (fitsWithin_of_find? fit deep found)

end

theorem fitsWithin_childrenFrom {items : List Json} (list : held.value = .list items)
    (fit : Json.itemsFit .schema items = true) (deep : held.value.depth ≤ bound) :
    ∃ nodes, held.elements = .ok nodes ∧ ∀ inner ∈ nodes, FitsWithin .schema bound inner.value := by
  rw [list, Json.depth] at deep
  refine ⟨held.childrenFrom 0 items, by rw [Node.elements, list]; rfl, fun inner among => ?_⟩
  obtain ⟨position, value, here, rfl⟩ := Node.mem_childrenFrom among
  obtain ⟨fits, inside⟩ := Json.fits_of_mem_items fit (List.mem_of_getElem? here)
  exact ⟨fits, show value.depth ≤ bound by omega⟩

theorem exists_elements
    (lies : held.value = .null ∨ FitsWithin (.listOf .schema) bound held.value) :
    ∃ nodes, (held.orElse (.list [])).elements = .ok nodes ∧
      ∀ inner ∈ nodes, FitsWithin .schema bound inner.value := by
  have present : ¬ held.value = .null → ∃ nodes, held.elements = .ok nodes ∧
      ∀ inner ∈ nodes, FitsWithin .schema bound inner.value := by
    intro apart
    obtain ⟨fits, deep⟩ := lies.resolve_left apart
    obtain ⟨items, list, fit⟩ := (Json.list_of_fits fits).resolve_left apart
    exact fitsWithin_childrenFrom list fit deep
  unfold Node.orElse
  split
  · rename_i truthy
    refine present fun null => ?_
    rw [null] at truthy
    cases truthy
  · exact ⟨[], rfl, nofun⟩

theorem exists_entries
    (lies : held.value = .null ∨ FitsWithin (.mapOf .schema) bound held.value) :
    ∃ nodes, (held.orElse (.object [])).entries = .ok nodes ∧
      ∀ entry ∈ nodes, FitsWithin .schema bound entry.2.value := by
  unfold Node.orElse
  split
  · rename_i truthy
    have apart : ¬ held.value = .null := fun null => by
      rw [null] at truthy
      cases truthy
    obtain ⟨fits, deep⟩ := lies.resolve_left apart
    obtain ⟨entries, object, fit⟩ := (Json.object_of_fits fits).resolve_left apart
    rw [object, Json.depth] at deep
    refine ⟨held.entriesFrom 0 entries, by rw [Node.entries, object]; rfl, ?_⟩
    rintro ⟨name, inner⟩ among
    obtain ⟨position, value, here, rfl⟩ := Node.mem_entriesFrom among
    obtain ⟨fits, inside⟩ := Json.fits_of_mem_values fit (List.mem_of_getElem? here)
    exact ⟨fits, show value.depth ≤ bound by omega⟩
  · exact ⟨[], rfl, nofun⟩

theorem find?_allOf (kind : kindOf entries = .allOf) :
    ∃ value, Json.find? "allOf" entries = some value := by
  have other : ∀ declared, Kind.ofType declared ≠ .allOf := by
    intro declared
    unfold Kind.ofType
    split <;> exact nofun
  unfold kindOf at kind
  dsimp only at kind
  split at kind
  · cases kind
  · split at kind
    · cases kind
    · split at kind
      · rename_i held
        exact Option.isSome_iff_exists.1 held
      · split at kind
        · exact absurd kind (other _)
        · split at kind
          · cases kind
          · split at kind <;> cases kind

theorem exists_memberNodes (fit : Json.keywordsFit entries = true)
    (object : node.value = .object entries) (deep : Json.entriesDepth entries ≤ bound) :
    ∃ nodes, memberNodes (kindOf entries) node = .ok nodes ∧
      ∀ inner ∈ nodes, FitsWithin .schema bound inner.value := by
  cases kind : kindOf entries with
  | union =>
      obtain ⟨oneOf, found, lies⟩ := exists_member fit object deep "oneOf"
      obtain ⟨anyOf, found', lies'⟩ := exists_member fit object deep "anyOf"
      obtain ⟨nodes, walked, each⟩ : ∃ nodes,
          (if oneOf.value.truthy then oneOf else anyOf.orElse (.list [])).elements = .ok nodes ∧
            ∀ inner ∈ nodes, FitsWithin .schema bound inner.value := by
        cases truthy : oneOf.value.truthy with
        | true => simpa [Node.orElse, truthy] using exists_elements lies
        | false => exact exists_elements lies'
      exact ⟨nodes, except_bind_eq_ok.2 ⟨oneOf, found, except_bind_eq_ok.2 ⟨anyOf, found', walked⟩⟩,
        each⟩
  | allOf =>
      obtain ⟨value, held⟩ := find?_allOf kind
      obtain ⟨inner, found, -⟩ := Node.exists_find? node held
      have fitting := fitsWithin_of_find? fit deep found
      obtain ⟨items, list, inside⟩ : ∃ items, inner.value = .list items ∧
          Json.itemsFit .schema items = true := by
        have fits : inner.value.fits .members = true := fitting.fits
        cases list : inner.value with
        | list items => exact ⟨items, rfl, by simpa [list, Json.fits] using fits⟩
        | _ => rw [list] at fits; cases fits
      obtain ⟨nodes, walked, each⟩ := fitsWithin_childrenFrom list inside fitting.deep
      refine ⟨nodes, except_bind_eq_ok.2 ⟨_, ?_, walked⟩, each⟩
      rw [Node.member, Node.member?, object]
      exact congrArg (fun held => Except.ok (held.getD (Node.free .null))) found
  | _ => exact ⟨[], rfl, nofun⟩

/-! ## Parsing -/

theorem readable_leaf {facts : Facts} (read : facts.Read IsOk) :
    (Schema.mk facts none [] none []).Readable :=
  .mk read nofun nofun nofun nofun

/-- What has the shape of a schema parses, and all that is read from it is there. -/
theorem exists_parseWithin (fitting : FitsWithin .schema bound node.value) :
    ∃ schema, parseWithin bound node = .ok schema ∧ schema.Readable := by
  induction bound generalizing node with
  | zero =>
      obtain ⟨-, deep⟩ := fitting
      cases value : node.value <;> rw [value] at deep <;> cases deep
  | succ bound ih =>
      obtain ⟨fits, deep⟩ := fitting
      unfold parseWithin
      cases value : node.value with
      | null =>
          obtain ⟨facts, made, -, read⟩ := exists_factsOf (.free (.object []))
            (rfl : Json.keywordsFit [] = true)
          exact ⟨_, except_bind_eq_ok.2 ⟨facts, made, rfl⟩, readable_leaf read⟩
      | object entries =>
          rw [value, Json.depth] at deep
          have deep : Json.entriesDepth entries ≤ bound := by omega
          have fit : Json.keywordsFit entries = true := by simpa [value, Json.fits] using fits
          obtain ⟨facts, made, kind, read⟩ := exists_factsOf node fit
          dsimp only
          rw [made, except_ok_bind]
          cases reference : facts.kind == .reference with
          | true => exact ⟨_, rfl, readable_leaf read⟩
          | false =>
              have combined := exists_memberNodes fit value deep
              rw [← kind] at combined
              rw [if_neg Bool.false_ne_true]
              refine exists_bind_eq_ok combined fun nodes each => ?_
              refine exists_bind_eq_ok (exists_mapM_eq_ok fun inner among =>
                ih (each inner among)) fun members readMembers => ?_
              refine exists_bind_eq_ok (exists_option_mapM_eq_ok fun inner found =>
                ih (fitsWithin_of_find? fit deep found)) fun items readItems => ?_
              refine exists_bind_eq_ok (exists_member fit value deep "properties")
                fun held lies => ?_
              refine exists_bind_eq_ok (exists_entries lies) fun inner eachEntry => ?_
              refine exists_bind_eq_ok (exists_mapM_eq_ok fun entry among => ?_)
                fun properties (readProperties : ∀ property ∈ properties,
                  property.2.Readable) => ?_
              · obtain ⟨property, parsed, readable⟩ := ih (eachEntry entry among)
                exact ⟨(entry.1, property), except_bind_eq_ok.2 ⟨property, parsed, rfl⟩, readable⟩
              refine exists_bind_eq_ok (exists_member fit value deep "additionalProperties")
                fun further lies => ?_
              have whole : ∀ additional, (∀ value, additional = some value → value.Readable) →
                  (Schema.mk facts items properties additional members).Readable :=
                fun _ readFurther => .mk read readItems readProperties readFurther readMembers
              -- further entries are said by a schema or by a flag, and only a schema is read
              cases object : further.value with
              | object inside =>
                  obtain ⟨fits, deep⟩ := lies.resolve_left (by rw [object]; rintro ⟨⟩)
                  have flag : Json.fits .schemaOrFlag (.object inside) = true := object ▸ fits
                  have fits : further.value.fits .schema = true := by
                    rw [object]
                    simpa [Json.fits] using flag
                  obtain ⟨value, parsed, readValue⟩ := ih ⟨fits, deep⟩
                  refine ⟨.mk facts items properties (some value) members, ?_, whole _ ?_⟩
                  · dsimp only
                    rw [parsed]
                    rfl
                  · rintro _ ⟨⟩
                    exact readValue
              | _ => exact ⟨.mk facts items properties none members, rfl, whole _ (by rintro _ ⟨⟩)⟩
      | _ =>
          rw [value] at fits
          cases fits

/-- A value that has the shape of a schema parses, and all that is read from it is there. -/
theorem exists_parse (node : Node) (fits : node.value.fits .schema = true) :
    ∃ schema, parse node = .ok schema ∧ schema.Readable :=
  exists_parseWithin ⟨fits, Nat.le_succ _⟩

end Schema

end TypedContract
