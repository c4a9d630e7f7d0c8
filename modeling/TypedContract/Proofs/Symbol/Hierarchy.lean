/-
# TypedContract.Proofs.Symbol.Hierarchy -- how much of the hierarchy a classification sees

The table of annotation types lists the bases of each type.  A type stands below the types
that it lists, and below everything that these stand below, so the tags of a parameter are
what its annotations reach in the table (`Tagged`), through however many types and in
whatever module each of them is declared.

Classification sees less (`Seen`).  An annotation that is parsed carries its own line of the
table and nothing of the lines of its bases (`annotationOf_eq_ok`), and only the annotations
of one module are looked at (`topModule_typeNamed_iff`).  What is seen is a tag
(`Tagged.of_seen`), so classification errs on one side: it goes wrong exactly when the
strongest tag of a parameter is not seen (`placed_classify_iff`).
-/
import Mathlib.Logic.Relation
import TypedContract.Proofs.Json.Standing
import TypedContract.Proofs.Steps
import TypedContract.Proofs.Text.Pieces
import TypedContract.Symbol.Manifest

namespace TypedContract

set_option autoImplicit false

open Relation (ReflTransGen TransGen)

/-! ## Qualified names -/

namespace Text

variable {text : List Char} {p : Char → Bool}

theorem takeWhile_append_cons (front rest : List Char) {c : Char} (stops : p c = false) :
    (front ++ c :: rest).takeWhile p = front.takeWhile p := by
  induction front with
  | nil => simp [stops]
  | cons d front ih => simp only [List.cons_append, List.takeWhile_cons, ih]

/-- A text with a place to split at goes on with that place after its first piece. -/
theorem takeWhile_append_isPrefix {mark : Char} (member : mark ∈ text) :
    text.takeWhile (!· == mark) ++ [mark] <+: text := by
  induction text with
  | nil => exact absurd member List.not_mem_nil
  | cons c rest ih =>
      by_cases found : c = mark
      · simp [found]
      · have later : mark ∈ rest := by simpa [Ne.symm found] using member
        simpa [found] using ih later

end Text

namespace Manifest

variable {text : String}

/-- A name without a point is in no module; any other is its module, a point and its name. -/
theorem cutLast_cases (text : String) :
    (cutLast text = ("", text) ∧ '.' ∉ text.toList) ∨
      text = AnnotationType.qualify (cutLast text).1 (cutLast text).2 := by
  have joined := Text.joinWith_splitOnChar '.' text.toList
  have some_ := Text.splitOnChar_ne_nil (· == '.') text.toList
  have parted := List.dropLast_append_getLast some_
  have last : (Text.splitOnChar (· == '.') text.toList).getLastD [] =
      (Text.splitOnChar (· == '.') text.toList).getLast some_ := by
    rw [List.getLastD_eq_getLast?, List.getLast?_eq_some_getLast some_, Option.getD_some]
  unfold cutLast
  dsimp only
  rw [last]
  cases front : (Text.splitOnChar (· == '.') text.toList).dropLast with
  | nil =>
      rw [front, List.nil_append] at parted
      obtain ⟨same, none⟩ := Text.eq_of_splitOnChar_eq_singleton parted.symm
      refine .inl ⟨?_, fun point => by simpa using none '.' point⟩
      rw [← same, String.ofList_toList]
      rfl
  | cons first others =>
      rw [front] at parted
      rw [← parted, Text.joinWith_concat (by simp)] at joined
      refine .inr (String.toList_inj.1 ?_)
      simp only [AnnotationType.qualify, String.toList_append, String.toList_ofList]
      exact joined.symm

/-- The annotation type of a name, with its own line of the table. -/
def typeNamed (hierarchy : Hierarchy) (text : String) : AnnotationType :=
  ⟨(cutLast text).1, (cutLast text).2, (hierarchy.lookup text).getD []⟩

/-- The name begins with the module of the annotations that place a parameter. -/
def InHttp (text : String) : Prop := "http.".toList <+: text.toList

instance : DecidablePred InHttp := fun text =>
  inferInstanceAs (Decidable ("http.".toList <+: text.toList))

theorem topModule_typeNamed_iff {hierarchy : Hierarchy} :
    (typeNamed hierarchy text).topModule = Symbol.httpModule ↔ InHttp text := by
  have top : (typeNamed hierarchy text).topModule =
      String.ofList ((cutLast text).1.toList.takeWhile (!· == '.')) := by
    rw [AnnotationType.topModule, Text.headD_splitOnChar]
    rfl
  rw [top, ← String.toList_inj, String.toList_ofList]
  rcases cutLast_cases text with ⟨cut, none⟩ | cut
  · rw [cut]
    refine ⟨fun found => by simp [Symbol.httpModule] at found, fun ⟨rest, found⟩ => ?_⟩
    exact absurd (by simp [← found]) none
  · have chars : text.toList = (cutLast text).1.toList ++ '.' :: (cutLast text).2.toList := by
      have := congrArg String.toList cut
      simpa [AnnotationType.qualify, String.toList_append] using this
    have stops := Text.takeWhile_append_cons (p := (!· == '.')) (cutLast text).1.toList
      (cutLast text).2.toList (c := '.') rfl
    rw [InHttp, ← stops, ← chars]
    constructor
    · intro first
      have point : '.' ∈ text.toList := by simp [chars]
      have before := Text.takeWhile_append_isPrefix point
      rw [first] at before
      exact before
    · rintro ⟨rest, whole⟩
      rw [← whole]
      rfl

/-- A name in a module is the qualified name of its annotation type. -/
theorem qualified_typeNamed {hierarchy : Hierarchy} (inHttp : InHttp text) :
    (typeNamed hierarchy text).qualified = text := by
  rcases cutLast_cases text with ⟨-, none⟩ | cut
  · obtain ⟨rest, found⟩ := inHttp
    exact absurd (by simp [← found]) none
  · exact cut.symm

/-! ## Parsed annotations -/

variable {hierarchy : Hierarchy} {source target : String} {kind : SymbolKind} {name raw item : Json}
  {symbol : Symbol}

/-- An annotation of the manifest names its type, and carries the line of that name. -/
theorem annotationOf_eq_ok {note : Annotation}
    (parsed : annotationOf hierarchy item = .ok note) :
    ∃ text, item.required "type" = .ok (.str text) ∧ note.type = typeNamed hierarchy text := by
  obtain ⟨type, found, rest⟩ := except_bind_eq_ok.1 parsed
  split at rest
  · rename_i text
    obtain ⟨_, same, rest⟩ := except_bind_eq_ok.1 rest
    obtain rfl := except_pure_eq_ok.1 same
    obtain ⟨_, -, rest⟩ := except_bind_eq_ok.1 rest
    obtain ⟨_, -, same⟩ := except_bind_eq_ok.1 rest
    obtain rfl := except_pure_eq_ok.1 same
    exact ⟨text, found, rfl⟩
  · cases rest

/-- The symbol of the manifest has an annotation whose type has that name. -/
def CarriesAnnotation (raw : Json) (text : String) : Prop :=
  ∃ found items, raw.member "annotations" = .ok found ∧ (found.orElse (.list [])).elements = .ok items ∧
    ∃ item ∈ items, item.required "type" = .ok (.str text)

/-- The annotations of a parsed symbol are of the types that the manifest names. -/
theorem exists_annotation_iff {P : AnnotationType → Prop}
    (parsed : Manifest.symbol hierarchy source kind name raw = .ok symbol) :
    (∃ note ∈ symbol.annotations, P note.type) ↔
      ∃ text, CarriesAnnotation raw text ∧ P (typeNamed hierarchy text) := by
  obtain ⟨facts, ownFacts, rest⟩ := except_bind_eq_ok.1 parsed
  obtain ⟨_, -, rest⟩ := except_bind_eq_ok.1 rest
  obtain ⟨_, -, rest⟩ := except_bind_eq_ok.1 rest
  obtain ⟨_, -, same⟩ := except_bind_eq_ok.1 rest
  obtain rfl := except_pure_eq_ok.1 same
  obtain ⟨_, -, rest⟩ := except_bind_eq_ok.1 ownFacts
  obtain ⟨found, held, rest⟩ := except_bind_eq_ok.1 rest
  obtain ⟨items, listed, rest⟩ := except_bind_eq_ok.1 rest
  obtain ⟨annotations, each, rest⟩ := except_bind_eq_ok.1 rest
  obtain ⟨_, -, rest⟩ := except_bind_eq_ok.1 rest
  obtain ⟨_, -, same⟩ := except_bind_eq_ok.1 rest
  obtain rfl := except_pure_eq_ok.1 same
  have steps := mapM_eq_ok_iff.1 each
  constructor
  · rintro ⟨note, member, holds⟩
    obtain ⟨item, inside, own⟩ := exists_of_forall₂_right steps member
    obtain ⟨text, typed, same⟩ := annotationOf_eq_ok own
    exact ⟨text, ⟨found, items, held, listed, item, inside, typed⟩, same ▸ holds⟩
  · rintro ⟨text, ⟨found', items', held', listed', item, inside, typed⟩, holds⟩
    obtain rfl := Except.ok.inj (held.symm.trans held')
    obtain rfl := Except.ok.inj (listed.symm.trans listed')
    obtain ⟨note, member, own⟩ := exists_of_forall₂_left steps inside
    obtain ⟨text', typed', same⟩ := annotationOf_eq_ok own
    obtain rfl := Json.str.inj (Except.ok.inj (typed.symm.trans typed'))
    exact ⟨note, member, same ▸ holds⟩

/-! ## Tags, and the tags that are seen -/

/-- The table lists the base in the line of the type. -/
def ListsBase (hierarchy : Hierarchy) (type base : String) : Prop :=
  .str base ∈ (hierarchy.lookup type).getD []

/-- An annotation of the symbol is of the target type, or of one that reaches it in the table. -/
def Tagged (hierarchy : Hierarchy) (raw : Json) (target : String) : Prop :=
  ∃ text, CarriesAnnotation raw text ∧ ReflTransGen (ListsBase hierarchy) text target

/-- An annotation of the symbol, from the module that is looked at, is of the target type or
of one with the target in its own line of the table. -/
def Seen (hierarchy : Hierarchy) (raw : Json) (target : String) : Prop :=
  ∃ text, CarriesAnnotation raw text ∧ InHttp text ∧
    (text = target ∨ ListsBase hierarchy text target)

theorem Tagged.of_seen (seen : Seen hierarchy raw target) : Tagged hierarchy raw target := by
  obtain ⟨text, carried, -, rfl | listed⟩ := seen
  · exact ⟨text, carried, .refl⟩
  · exact ⟨text, carried, .single listed⟩

/-- The test of classification for one target sees the tags in sight of it. -/
theorem any_isSubtypeOf_iff {tag : String}
    (parsed : Manifest.symbol hierarchy source kind name raw = .ok symbol) :
    (symbol.annotations.filter fun a => a.type.topModule == Symbol.httpModule).any
        (fun a => a.type.isSubtypeOf Symbol.httpModule tag) = true ↔
      Seen hierarchy raw (AnnotationType.qualify Symbol.httpModule tag) := by
  have some_ := exists_annotation_iff (P := fun type =>
    type.topModule = Symbol.httpModule ∧ type.isSubtypeOf Symbol.httpModule tag) parsed
  rw [List.any_filter, List.any_eq_true]
  simp only [Bool.and_eq_true, beq_iff_eq]
  rw [some_]
  refine exists_congr fun text => and_congr_right fun _ => ?_
  rw [topModule_typeNamed_iff]
  refine and_congr_right fun inHttp => ?_
  rw [AnnotationType.isSubtypeOf, Bool.or_eq_true, beq_iff_eq, qualified_typeNamed inHttp,
    List.any_eq_true]
  refine or_congr_right ⟨?_, fun listed => ⟨_, listed, Json.text_same_iff.2 rfl⟩⟩
  rintro ⟨base, listed, same⟩
  rw [Json.text_same_iff.1 same] at listed
  exact listed

/-! ## Classification -/

/-- The annotation type with that name that places a parameter. -/
abbrev tagType (tag : String) : String := AnnotationType.qualify Symbol.httpModule tag

/-- Where the tags of a symbol with a data type place it: a payload tag before a header tag, and
a query parameter is what neither places. -/
inductive Placed (hierarchy : Hierarchy) (raw : Json) : ParameterKind → Prop where
  | payload : Tagged hierarchy raw (tagType "Payload") → Placed hierarchy raw .payload
  | header : ¬ Tagged hierarchy raw (tagType "Payload") → Tagged hierarchy raw (tagType "Header") →
      Placed hierarchy raw .header
  | query : ¬ Tagged hierarchy raw (tagType "Payload") → ¬ Tagged hierarchy raw (tagType "Header") →
      Placed hierarchy raw .query

/-- A symbol with a data type is placed by the first target that is seen. -/
theorem classify_of_data (parsed : Manifest.symbol hierarchy source kind name raw = .ok symbol)
    {type : TypeDescriptor} (typed : symbol.facts.type = some type) (data : type.isData = true) :
    Seen hierarchy raw (tagType "Payload") ∧ symbol.classify = .payload ∨
    ¬ Seen hierarchy raw (tagType "Payload") ∧
      (Seen hierarchy raw (tagType "Header") ∧ symbol.classify = .header ∨
        ¬ Seen hierarchy raw (tagType "Header") ∧ symbol.classify = .query) := by
  rw [← any_isSubtypeOf_iff parsed, ← any_isSubtypeOf_iff parsed]
  unfold Symbol.classify
  simp only [typed, data, Symbol.placements, List.find?_cons, List.find?_nil, Bool.not_true,
    Bool.false_eq_true, if_false]
  generalize (symbol.annotations.filter _).any _ = payload
  generalize (symbol.annotations.filter _).any _ = header
  generalize (symbol.annotations.filter _).any _ = query
  cases payload <;> cases header <;> cases query <;> simp

/-- Only a symbol without a data type is no part of the contract. -/
theorem classify_eq_other_iff (parsed : Manifest.symbol hierarchy source kind name raw = .ok symbol) :
    symbol.classify = .other ↔ ∀ type, symbol.facts.type = some type → type.isData = false := by
  cases typed : symbol.facts.type with
  | none => simp [Symbol.classify, typed]
  | some type =>
      cases data : type.isData with
      | false => simp [Symbol.classify, typed, data]
      | true =>
          rcases classify_of_data parsed typed data with ⟨-, own⟩ | ⟨-, ⟨-, own⟩ | ⟨-, own⟩⟩ <;>
            simp [own, data]

/-- A symbol is no part of the contract exactly when it has no data type.  Any other is where
its tags place it exactly when its strongest tag among payload and header is seen: stands in
the module that is looked at, and is the target itself or lists it in its own line. -/
theorem placed_classify_iff (parsed : Manifest.symbol hierarchy source kind name raw = .ok symbol) :
    (symbol.classify = .other ↔ ∀ type, symbol.facts.type = some type → type.isData = false) ∧
    (symbol.classify ≠ .other → (Placed hierarchy raw symbol.classify ↔
      (Tagged hierarchy raw (tagType "Payload") → Seen hierarchy raw (tagType "Payload")) ∧
      (¬ Tagged hierarchy raw (tagType "Payload") → Tagged hierarchy raw (tagType "Header") →
        Seen hierarchy raw (tagType "Header")))) := by
  refine ⟨classify_eq_other_iff parsed, fun part => ?_⟩
  obtain ⟨type, typed, data⟩ : ∃ type, symbol.facts.type = some type ∧ type.isData = true := by
    simpa [classify_eq_other_iff parsed] using part
  rcases classify_of_data parsed typed data with ⟨seen, own⟩ | ⟨unseen, ⟨seen, own⟩ | ⟨unseen', own⟩⟩
    <;> rw [own]
  · have tagged := Tagged.of_seen seen
    exact ⟨fun _ => ⟨fun _ => seen, fun none => absurd tagged none⟩, fun _ => .payload tagged⟩
  · constructor
    · rintro ⟨⟩
      rename_i none _
      exact ⟨fun tagged => absurd tagged none, fun _ _ => seen⟩
    · rintro ⟨seesPayload, -⟩
      exact .header (fun tagged => unseen (seesPayload tagged)) (.of_seen seen)
  · constructor
    · rintro ⟨⟩
      rename_i none none'
      exact ⟨fun tagged => absurd tagged none, fun _ tagged => absurd tagged none'⟩
    · rintro ⟨seesPayload, seesHeader⟩
      have none : ¬ Tagged hierarchy raw (tagType "Payload") := fun tagged => unseen (seesPayload tagged)
      exact .query none fun tagged => unseen' (seesHeader none tagged)

/-! ## Tags in sight, and tags out of sight -/

/-- A table with a type two lines below its target and a type of another module. -/
def formTable : Hierarchy := [
  ("http.FormPayload", [.str "http.JsonPayload"]), ("http.JsonPayload", [.str "http.Payload"]),
  ("forms.Payload", [.str "http.Payload"])
]

/-- A parameter with a data type and an annotation of the given type. -/
def petTagged (text : String) : Json :=
  .object [("name", .str "pet"), ("type", .object [("name", .str "Pet")]),
    ("annotations", .list [.object [("type", .str text)]])]

theorem carriesAnnotation_petTagged (text : String) : CarriesAnnotation (petTagged text) text :=
  ⟨_, _, rfl, rfl, _, List.mem_singleton_self _, rfl⟩

/-- The kind of a symbol with a data type that can be parsed. -/
theorem exists_symbol (symbol? : Except Fault Symbol) (kind : ParameterKind)
    (ok : (symbol?.toOption.any fun symbol => symbol.classify == kind) = true) :
    ∃ symbol, symbol? = .ok symbol ∧ symbol.classify = kind := by
  obtain ⟨symbol, found, own⟩ := (Option.any_eq_true ..).1 ok
  exact ⟨symbol, toOption_eq_some.1 found, eq_of_beq own⟩

theorem listsBase_of_lookup {type base : String} (line : hierarchy.lookup type = some [.str base]) :
    ListsBase hierarchy type base := by
  simp [ListsBase, line]

/-- The payload types of the table: each one stands below the target. -/
theorem reaches_payload : ∀ text ∈ ["http.JsonPayload", "http.FormPayload", "forms.Payload"],
    ReflTransGen (ListsBase formTable) text (tagType "Payload") := by
  have json : ListsBase formTable "http.JsonPayload" (tagType "Payload") := listsBase_of_lookup rfl
  have form : ListsBase formTable "http.FormPayload" "http.JsonPayload" := listsBase_of_lookup rfl
  have foreign : ListsBase formTable "forms.Payload" (tagType "Payload") := listsBase_of_lookup rfl
  intro text member
  simp only [List.mem_cons, List.not_mem_nil, or_false] at member
  rcases member with rfl | rfl | rfl
  · exact .single json
  · exact .head form (.single json)
  · exact .single foreign

/-- A type that lists the target in its own line is seen. -/
theorem placed_classify_iff_json : ∃ symbol,
    Manifest.symbol formTable "symbols.yaml" .parameter (.str "pet") (petTagged "http.JsonPayload") =
      .ok symbol ∧ symbol.classify = .payload ∧ Placed formTable (petTagged "http.JsonPayload") .payload := by
  obtain ⟨symbol, parsed, own⟩ := exists_symbol (Manifest.symbol formTable "symbols.yaml"
    .parameter (.str "pet") (petTagged "http.JsonPayload")) .payload (by decide +kernel)
  have seen : Seen formTable (petTagged "http.JsonPayload") (tagType "Payload") :=
    ⟨_, carriesAnnotation_petTagged _, by decide +kernel, .inr (listsBase_of_lookup rfl)⟩
  refine ⟨symbol, parsed, own, ?_⟩
  have placed := ((placed_classify_iff parsed).2 (by simp [own])).2
    ⟨fun _ => seen, fun none => absurd (.of_seen seen) none⟩
  exact own ▸ placed

/-- The lines of a table lead back to no type. -/
def Acyclic (hierarchy : Hierarchy) : Prop := ∀ type, ¬ TransGen (ListsBase hierarchy) type type

theorem acyclic_formTable : Acyclic formTable := by
  let rank (type : String) : Nat :=
    if type = "http.Payload" then 0 else if type = "http.FormPayload" then 2 else 1
  have step : ∀ type base, ListsBase formTable type base → rank base < rank type := by
    intro type base listed
    simp only [ListsBase, formTable, List.lookup_cons, List.lookup_nil] at listed
    split at listed
    · rename_i same
      obtain rfl : base = "http.JsonPayload" := by simpa using listed
      rw [eq_of_beq same]
      decide
    · split at listed
      · rename_i same
        obtain rfl : base = "http.Payload" := by simpa using listed
        rw [eq_of_beq same]
        decide
      · split at listed
        · rename_i same
          obtain rfl : base = "http.Payload" := by simpa using listed
          rw [eq_of_beq same]
          decide
        · exact absurd listed (by simp)
  have path : ∀ type base, TransGen (ListsBase formTable) type base → rank base < rank type := by
    intro type base path
    induction path with
    | single listed => exact step _ _ listed
    | tail _ listed ih => exact Nat.lt_trans (step _ _ listed) ih
  exact fun type cycle => Nat.lt_irrefl _ (path type type cycle)

/-- A type two lines below the target and a type of another module are payload tags, and a
parameter that carries one of them is taken for a query parameter. -/
theorem payload_out_of_sight : Acyclic formTable ∧
    ∀ text ∈ ["http.FormPayload", "forms.Payload"], ∃ symbol,
      Manifest.symbol formTable "symbols.yaml" .parameter (.str "pet") (petTagged text) = .ok symbol ∧
      symbol.classify = .query ∧ Placed formTable (petTagged text) .payload := by
  refine ⟨acyclic_formTable, fun text member => ?_⟩
  have each : ∀ text ∈ ["http.FormPayload", "forms.Payload"],
      ((Manifest.symbol formTable "symbols.yaml" .parameter (.str "pet")
        (petTagged text)).toOption.any fun symbol => symbol.classify == .query) = true := by
    decide +kernel
  obtain ⟨symbol, parsed, own⟩ := exists_symbol _ _ (each text member)
  exact ⟨symbol, parsed, own, .payload ⟨text, carriesAnnotation_petTagged text,
    reaches_payload text (List.mem_cons_of_mem _ member)⟩⟩

end Manifest

end TypedContract
