/-
# TypedContract.Proofs.Name.Legal -- canonical names stay as they are, identifiers are legal

A sanitised name is clean: small letters, digits and underscores, no two underscores side
by side and none at an end (`clean_sanitizeChars`).  Every pass of the sanitising leaves a
clean name alone -- there is no capital to split at, nothing to put in lower case, no
separator, nothing to filter, no run to squeeze and no end to trim -- so sanitising twice is
sanitising once (`sanitizeChars_eq_self`).

An identifier needs less: a name that has a character, and only plain ones, becomes a legal
identifier (`legal_identifier`).  The underscore that is added to a keyword makes it a text
that is no keyword, because no keyword has an underscore (`not_mem_keywords`).  This is what
the names of operations rest on, too: a verb and an underscore stand in front of whatever the
plural and the singular leave of the last word, and that may be nothing
(`legal_ofPath`).
-/
import Mathlib.Data.List.Chain
import TypedContract.Document.Contract
import TypedContract.Name.Operation
import TypedContract.Proofs.Name.Identifier
import TypedContract.Proofs.Steps

namespace TypedContract.Name

set_option autoImplicit false

open Text

variable {c : Char} {text word : List Char} {words : List (List Char)} {name : String}

/-! ## Plain characters -/

/-- A small letter or a digit. -/
def isWordChar (c : Char) : Bool := isSmall c || isPlain.isDecimalAscii c

theorem toNat_lt_of_isPlain (plain : isPlain c) : c.toNat < 0x80 := by
  simp only [isPlain, isSmall, isPlain.isDecimalAscii, Bool.or_eq_true, Bool.and_eq_true,
    decide_eq_true_eq, beq_iff_eq, Char.le_def, UInt32.le_iff_toNat_le] at plain
  rcases plain with (⟨-, atMost⟩ | ⟨-, atMost⟩) | rfl
  · exact Nat.lt_of_le_of_lt atMost (by decide)
  · exact Nat.lt_of_le_of_lt atMost (by decide)
  · decide

/-- What holds of the plain characters among the first 128 holds of all of them. -/
theorem of_isPlain {P : Char → Prop} (each : ∀ n < 0x80, isPlain (Char.ofNat n) → P (Char.ofNat n))
    (plain : isPlain c) : P c := by
  have own := each c.toNat (toNat_lt_of_isPlain plain)
  rw [Char.ofNat_toNat] at own
  exact own plain

/-- The passes have nothing to change at a plain character, and identifiers may hold it. -/
theorem passed_of_isPlain (plain : isPlain c) :
    isCapital c = false ∧ isSeparator c = false ∧ c.toLower = c ∧ (c.isAlphanum ∨ c = '_') ∧
      (isDigit c = false → c.isAlpha ∨ c = '_') :=
  of_isPlain (P := fun c => isCapital c = false ∧ isSeparator c = false ∧ c.toLower = c ∧
    (c.isAlphanum ∨ c = '_') ∧ (isDigit c = false → c.isAlpha ∨ c = '_')) (by decide +kernel) plain

theorem isCapital_of_isPlain (plain : isPlain c) : isCapital c = false :=
  (passed_of_isPlain plain).1

theorem isSeparator_of_isPlain (plain : isPlain c) : isSeparator c = false :=
  (passed_of_isPlain plain).2.1

theorem toLower_of_isPlain (plain : isPlain c) : c.toLower = c :=
  (passed_of_isPlain plain).2.2.1

theorem isWordChar_of_isPlain (plain : isPlain c) (other : c ≠ '_') : isWordChar c := by
  simpa [isPlain, isWordChar, other] using plain

theorem isAlphanum_of_isPlain (plain : isPlain c) : c.isAlphanum ∨ c = '_' :=
  (passed_of_isPlain plain).2.2.2.1

/-- A plain character that is no digit begins an identifier. -/
theorem isAlpha_of_isPlain (plain : isPlain c) (noDigit : isDigit c = false) :
    c.isAlpha ∨ c = '_' :=
  (passed_of_isPlain plain).2.2.2.2 noDigit

/-! ## Clean names -/

/-- The name is made of plain characters, with no underscore next to another or at an end. -/
structure Clean (text : List Char) : Prop where
  plain : ∀ c ∈ text, isPlain c
  single : text.IsChain fun a b => ¬ (a = '_' ∧ b = '_')
  first : ∀ c ∈ text.head?, c ≠ '_'
  last : ∀ c ∈ text.getLast?, c ≠ '_'

/-- Runs of underscores are squeezed to single ones, and the first character stays. -/
theorem isChain_squeeze (text : List Char) :
    (squeeze text).IsChain (fun a b => ¬ (a = '_' ∧ b = '_')) ∧
      (squeeze text).head? = text.head? := by
  fun_induction squeeze text with
  | case1 rest ih => exact ⟨ih.1, ih.2⟩
  | case2 c rest noRun ih =>
      refine ⟨List.isChain_cons.2 ⟨fun next found => ?_, ih.1⟩, rfl⟩
      rintro ⟨rfl, rfl⟩
      rw [ih.2] at found
      cases rest with
      | nil => exact absurd found (by simp)
      | cons d rest =>
          obtain rfl : d = '_' := by simpa using found
          exact noRun rest rfl rfl
  | case3 => exact ⟨List.isChain_nil, rfl⟩

theorem mem_of_mem_squeeze (member : c ∈ squeeze text) : c ∈ text := by
  fun_induction squeeze text with
  | case1 rest ih => exact List.mem_cons_of_mem _ (ih member)
  | case2 d rest _ ih =>
      rcases List.mem_cons.1 member with rfl | later
      · exact List.mem_cons_self
      · exact List.mem_cons_of_mem _ (ih later)
  | case3 => exact member

theorem squeeze_eq_self (single : text.IsChain fun a b => ¬ (a = '_' ∧ b = '_')) :
    squeeze text = text := by
  fun_induction squeeze text with
  | case1 rest _ => exact absurd ⟨rfl, rfl⟩ (List.isChain_cons_cons.1 single).1
  | case2 c rest _ ih => rw [ih single.tail]
  | case3 => rfl

/-- Sanitising settles every name. -/
theorem clean_sanitizeChars (name : List Char) : Clean (sanitizeChars name) := by
  unfold sanitizeChars
  dsimp only
  generalize whole : ((snakeChars name).map fun c => if isSeparator c then '_' else c).filter
    isPlain = filtered
  have inside := trimBoth_isInfix (· == '_') (squeeze filtered)
  have ⟨front, back, parted⟩ := inside
  have chain := (isChain_squeeze filtered).1
  rw [← parted] at chain
  refine ⟨fun c member => ?_, chain.left_of_append.right_of_append, ?_, ?_⟩
  · have kept := mem_of_mem_squeeze (inside.subset member)
    rw [← whole] at kept
    exact (List.mem_filter.1 kept).2
  all_goals
    intro c found
    rcases @trimBoth_cases (· == '_') (squeeze filtered) with none | ⟨⟨d, rest, begins, first⟩,
      front, e, ends, last⟩
    · simp [none] at found
  · obtain rfl : d = c := by simpa [begins] using found
    simpa using first
  · obtain rfl : e = c := by simpa [ends] using found
    simpa using last

/-! ## What the passes leave alone -/

theorem splitRuns_eq_self (plain : ∀ c ∈ text, isPlain c) : splitRuns text = text := by
  fun_induction splitRuns text with
  | case1 a b c rest capitals _ =>
      simp [isCapital_of_isPlain (plain a List.mem_cons_self)] at capitals
  | case2 a b c rest _ ih => rw [ih fun c member => plain c (List.mem_cons_of_mem _ member)]
  | case3 => rfl

theorem splitWords_eq_self (plain : ∀ c ∈ text, isPlain c) : splitWords text = text := by
  fun_induction splitWords text with
  | case1 a b rest capital _ =>
      simp [isCapital_of_isPlain (plain b (by simp))] at capital
  | case2 a b rest _ ih => rw [ih fun c member => plain c (List.mem_cons_of_mem _ member)]
  | case3 => rfl

theorem lowerAfter_eq_self (plain : ∀ c ∈ text, isPlain c) (before : List Char) :
    lowerAfter before text = text := by
  induction text generalizing before with
  | nil => rfl
  | cons c rest ih =>
      have own := plain c List.mem_cons_self
      have below := toNat_lt_of_isPlain own
      have noSigma : (c == 'Σ') = false := by
        rw [beq_eq_false_iff_ne]
        rintro rfl
        exact absurd below (by decide)
      rw [lowerAfter, noSigma, lowerChar, if_pos below, toLower_of_isPlain own,
        ih fun c member => plain c (List.mem_cons_of_mem _ member)]
      rfl

theorem snakeChars_eq_self (plain : ∀ c ∈ text, isPlain c) : snakeChars text = text := by
  rw [snakeChars, splitRuns_eq_self plain, splitWords_eq_self plain, lower,
    lowerAfter_eq_self plain]

/-- A clean name is sanitised already. -/
theorem sanitizeChars_eq_self (clean : Clean text) : sanitizeChars text = text := by
  have marked : (text.map fun c => if isSeparator c then '_' else c) = text := by
    rw [List.map_congr_left fun c member => by
      rw [isSeparator_of_isPlain (clean.plain c member)]]
    exact List.map_id' text
  have filtered : text.filter isPlain = text := List.filter_eq_self.2 clean.plain
  unfold sanitizeChars
  dsimp only
  rw [snakeChars_eq_self clean.plain, marked, filtered, squeeze_eq_self clean.single]
  exact trimBoth_eq_self (by simpa using clean.first) (by simpa using clean.last)

/-! ## Words -/

/-- The text is one or more words of small letters and digits, joined by single underscores. -/
def Worded (text : List Char) : Prop :=
  ∃ words, words ≠ [] ∧ (∀ word ∈ words, word ≠ [] ∧ ∀ c ∈ word, isWordChar c) ∧
    text = joinWith ['_'] words

/-- A character in front of a text is a character in front of its first word. -/
theorem Worded.cons (worded : Worded text) (own : isWordChar c) : Worded (c :: text) := by
  obtain ⟨words, some_, each, rfl⟩ := worded
  cases words with
  | nil => exact absurd rfl some_
  | cons word words =>
      refine ⟨(c :: word) :: words, by simp, fun other member => ?_, ?_⟩
      · rcases List.mem_cons.1 member with rfl | later
        · refine ⟨by simp, fun d inside => ?_⟩
          rcases List.mem_cons.1 inside with rfl | inside
          · exact own
          · exact (each word List.mem_cons_self).2 d inside
        · exact each other (List.mem_cons_of_mem _ later)
      · cases words <;> rfl

theorem worded_singleton (own : isWordChar c) : Worded [c] :=
  ⟨[[c]], by simp, by simpa using own, rfl⟩

/-- A character and an underscore in front of a text are a new first word. -/
theorem Worded.mark (worded : Worded text) (own : isWordChar c) : Worded (c :: '_' :: text) := by
  obtain ⟨words, some_, each, rfl⟩ := worded
  refine ⟨[c] :: words, by simp, fun other member => ?_, ?_⟩
  · rcases List.mem_cons.1 member with rfl | later
    · exact ⟨by simp, by simpa using own⟩
    · exact each other later
  · cases words with
    | nil => exact absurd rfl some_
    | cons word words => rfl

/-- A clean name that is not empty is made of words. -/
theorem Clean.worded : ∀ {text : List Char}, Clean text → text ≠ [] → Worded text
  | [], _, some_ => absurd rfl some_
  | [c], clean, _ =>
      worded_singleton (isWordChar_of_isPlain (clean.plain c (by simp)) (clean.first c rfl))
  | c :: d :: rest, clean, _ => by
      have own := isWordChar_of_isPlain (clean.plain c (by simp)) (clean.first c rfl)
      have plain : ∀ e ∈ d :: rest, isPlain e :=
        fun e member => clean.plain e (List.mem_cons_of_mem _ member)
      have last : ∀ e ∈ (d :: rest).getLast?, e ≠ '_' := by simpa using clean.last
      by_cases mark : d = '_'
      · -- the underscore is not the last character, and the next one is another
        subst mark
        cases rest with
        | nil => exact absurd rfl (last '_' rfl)
        | cons e rest =>
            have apart := (List.isChain_cons_cons.1 clean.single.tail).1
            refine Worded.mark (Clean.worded ⟨fun x member => plain x
              (List.mem_cons_of_mem _ member), clean.single.tail.tail, ?_, by simpa using last⟩
              (by simp)) own
            rintro x ⟨⟩ rfl
            exact apart ⟨rfl, rfl⟩
      · refine Worded.cons (Clean.worded ⟨plain, clean.single.tail, ?_, last⟩ (by simp)) own
        rintro x ⟨⟩
        exact mark

/-! ## Canonical names -/

theorem clean_display (raw : String) : Clean (display raw).toList := by
  unfold display
  split
  · refine ⟨List.all_eq_true.1 (by decide +kernel), by decide +kernel, ?_, ?_⟩ <;>
      · rintro c ⟨⟩
        decide
  · rw [String.toList_ofList]
    exact clean_sanitizeChars raw.toList

theorem display_ne_nil (raw : String) : (display raw).toList ≠ [] := by
  obtain ⟨c, rest, chars, -⟩ := (framed_display raw).first
  simp [chars]

theorem worded_display (raw : String) : Worded (display raw).toList :=
  (clean_display raw).worded (display_ne_nil raw)

theorem display_display (raw : String) : display (display raw) = display raw := by
  have same := sanitizeChars_eq_self (clean_display raw)
  rw [display.eq_def (display raw), same]
  split
  · rename_i none
    exact absurd none (display_ne_nil raw)
  · exact String.ofList_toList

/-! ## Legal identifiers -/

/-- The text is a letter or an underscore and then letters, digits and underscores. -/
def IsIdentifier (name : String) : Prop :=
  ∃ c rest, name.toList = c :: rest ∧ (c.isAlpha ∨ c = '_') ∧ ∀ d ∈ rest, d.isAlphanum ∨ d = '_'

/-- The text is an identifier of the client's language and none of its keywords. -/
structure Legal (name : String) : Prop where
  identifier : IsIdentifier name
  noKeyword : name ∉ keywords

/-- No keyword has an underscore. -/
theorem not_mem_keywords (mark : '_' ∈ name.toList) : name ∉ keywords := by
  intro keyword
  have none : ∀ keyword ∈ keywords, '_' ∉ keyword.toList := by decide +kernel
  exact none name keyword mark

/-- With an underscore in front of a digit, plain characters are an identifier. -/
theorem isIdentifier_guardDigit (some_ : name.toList ≠ []) (plain : ∀ c ∈ name.toList, isPlain c) :
    IsIdentifier (guardDigit name) := by
  cases chars : name.toList with
  | nil => exact absurd chars some_
  | cons c rest =>
      have others : ∀ d ∈ name.toList, d.isAlphanum ∨ d = '_' :=
        fun d member => isAlphanum_of_isPlain (plain d member)
      unfold guardDigit
      rw [chars]
      dsimp only
      split
      · exact ⟨'_', name.toList, by rw [String.toList_append]; rfl, .inr rfl, others⟩
      · rename_i noDigit
        refine ⟨c, rest, chars, isAlpha_of_isPlain (plain c (by simp [chars])) ?_, fun d member => ?_⟩
        · simpa using noDigit
        · exact others d (by simp [chars, member])

/-- A name with a character, and only plain ones, becomes a legal identifier. -/
theorem legal_identifier (some_ : name.toList ≠ []) (plain : ∀ c ∈ name.toList, isPlain c) :
    Legal (identifier name) := by
  have guarded := isIdentifier_guardDigit some_ plain
  unfold identifier
  dsimp only
  split
  · obtain ⟨c, rest, chars, first, others⟩ := guarded
    have longer : (guardDigit name ++ "_").toList = c :: (rest ++ ['_']) := by
      rw [String.toList_append, chars]
      rfl
    refine ⟨⟨c, rest ++ ['_'], longer, first, fun d member => ?_⟩, not_mem_keywords (by simp [longer])⟩
    rcases List.mem_append.1 member with inside | final
    · exact others d inside
    · exact .inr (by simpa using final)
  · rename_i noKeyword
    exact ⟨guarded, by simpa using noKeyword⟩

theorem legal_identifier_display (raw : String) : Legal (identifier (display raw)) :=
  legal_identifier (display_ne_nil raw) (clean_display raw).plain

/-! ## Names of operations -/

/-- The form is the word with another ending, which is plain. -/
def Inflects (form word : List Char) : Prop :=
  ∃ n ending, form = cut n word ++ ending ∧ ending.all isPlain = true

theorem isPlain_of_inflects {form : List Char} (inflects : Inflects form word)
    (plain : ∀ c ∈ word, isPlain c) : ∀ c ∈ form, isPlain c := by
  obtain ⟨n, ending, rfl, own⟩ := inflects
  intro c member
  rcases List.mem_append.1 member with front | back
  · exact plain c (List.mem_of_mem_take front)
  · exact List.all_eq_true.1 own c back

theorem Inflects.append {ending : List Char} (plain : ending.all isPlain = true) :
    Inflects (word ++ ending) word :=
  ⟨0, ending, by rw [cut, Nat.sub_zero, List.take_length], plain⟩

theorem Inflects.refl (word : List Char) : Inflects word word :=
  ⟨0, [], by rw [cut, Nat.sub_zero, List.take_length, List.append_nil], rfl⟩

theorem Inflects.shorter (n : Nat) : Inflects (cut n word) word :=
  ⟨n, [], (List.append_nil _).symm, rfl⟩

theorem inflects_pluralChars : Inflects (pluralChars word) word := by
  unfold pluralChars
  split
  · exact .refl word
  · split
    · exact ⟨1, _, rfl, by decide⟩
    · exact .append (by decide)

theorem inflects_singularChars : Inflects (singularChars word) word := by
  unfold singularChars
  split
  · exact ⟨3, _, rfl, by decide⟩
  · split
    · exact .shorter 2
    · split
      · exact .shorter 1
      · exact .refl word

/-- The only word of a path stays plain as a collection and as one of its members. -/
theorem isPlain_only {verb : String} {hasParameter : Bool} (plain : ∀ c ∈ word, isPlain c) :
    ∀ c ∈ if verb == "list" then pluralChars word
      else if hasParameter || verb == "create" then singularChars word else word, isPlain c := by
  split
  · exact isPlain_of_inflects inflects_pluralChars plain
  · split
    · exact isPlain_of_inflects inflects_singularChars plain
    · exact plain

theorem isPlain_joinWith (each : ∀ word ∈ words, ∀ c ∈ word, isPlain c) :
    ∀ c ∈ joinWith ['_'] words, isPlain c := by
  intro c member
  fun_induction joinWith ['_'] words with
  | case1 => exact absurd member List.not_mem_nil
  | case2 word => exact each word (by simp) c member
  | case3 word words _ ih =>
      rcases List.mem_append.1 member with front | later
      · rcases List.mem_append.1 front with own | mark
        · exact each word (by simp) c own
        · obtain rfl := List.mem_singleton.1 mark
          decide
      · exact ih (fun other inside => each other (List.mem_cons_of_mem _ inside)) later

/-- The verbs of the methods are plain, and with the word for a path without segments each is
an identifier already. -/
theorem plain_verb : ∀ method ∈ Contract.methods,
    let method := String.ofList (lower method.toList)
    (verbOf method).toList.all isPlain = true ∧
      identifier (verbOf method ++ "_root") = verbOf method ++ "_root" := by
  decide +kernel

theorem toList_ne_nil_of_mark {verb rest : String} : (verb ++ "_" ++ rest).toList ≠ [] := by
  simp [String.toList_append]

/-- An operation is named legally by its method and path. -/
theorem legal_ofPath {method : String} (known : method ∈ Contract.methods) (path : String) :
    Legal (ofPath method path) := by
  obtain ⟨verb, root⟩ := plain_verb method known
  unfold ofPath
  dsimp only
  split
  · rw [← root]
    refine legal_identifier (by simp [String.toList_append]) fun c member => ?_
    rcases List.mem_append.1 (String.toList_append ▸ member) with front | ending
    · exact List.all_eq_true.1 verb c front
    · exact (List.all_eq_true.1 (by decide) : ∀ c ∈ "_root".toList, isPlain c) c ending
  · generalize named : ((pathParts path).map sanitizeChars).filter (!·.isEmpty) = parts
    have each : ∀ word ∈ if parts.isEmpty then ["root".toList] else parts,
        ∀ c ∈ word, isPlain c := by
      intro word member
      split at member
      · obtain rfl := List.mem_singleton.1 member
        exact List.all_eq_true.1 (by decide)
      · rw [← named] at member
        obtain ⟨segment, -, rfl⟩ := List.mem_map.1 (List.mem_filter.1 member).1
        exact (clean_sanitizeChars segment).plain
    generalize (if parts.isEmpty then ["root".toList] else parts) = words at each ⊢
    refine legal_identifier toList_ne_nil_of_mark fun c member => ?_
    rw [String.toList_append, String.toList_append] at member
    rcases List.mem_append.1 member with front | resource
    · rcases List.mem_append.1 front with own | mark
      · split at own
        · exact (List.all_eq_true.1 (by decide) : ∀ c ∈ "get".toList, isPlain c) c own
        · exact List.all_eq_true.1 verb c own
      · exact (List.all_eq_true.1 (by decide) : ∀ c ∈ "_".toList, isPlain c) c mark
    · rw [String.toList_ofList] at resource
      split at resource
      · rename_i word
        exact isPlain_only (each word List.mem_cons_self) c resource
      · exact isPlain_joinWith each c resource

/-- An operation has a legal name, whatever its path and its identifier in the contract. -/
theorem exists_legal_ofOperation {method path : String} {operationId : Json}
    (known : method ∈ Contract.methods)
    (textual : operationId.truthy = true → ∃ text, operationId = .str text) :
    ∃ name, ofOperation method path operationId = .ok name ∧ Legal name := by
  unfold ofOperation
  split
  · rename_i given
    obtain ⟨text, rfl⟩ := textual given
    rw [Json.text, except_ok_bind]
    dsimp only
    split
    · rename_i some_
      refine ⟨_, rfl, legal_identifier (fun empty => ?_) ?_⟩
      · have none : sanitize text = "" := String.toList_inj.1 empty
        exact absurd none (by simpa using some_)
      · rw [sanitize, String.toList_ofList]
        exact (clean_sanitizeChars text.toList).plain
    · exact ⟨_, rfl, legal_ofPath known path⟩
  · exact ⟨_, rfl, legal_ofPath known path⟩

/-! ## All names -/

/-- Canonical names are words joined by single underscores and stay as they are; their
identifiers are legal and tell them apart; and the names of operations are legal. -/
theorem names_legal :
    (∀ raw, Worded (display raw).toList ∧ display (display raw) = display raw ∧
      Legal (identifier (display raw))) ∧
    (∀ raw other, identifier (display raw) = identifier (display other) →
      display raw = display other) ∧
    ∀ method ∈ Contract.methods, ∀ path operationId,
      (operationId.truthy = true → ∃ text, operationId = .str text) →
        ∃ name, ofOperation method path operationId = .ok name ∧ Legal name := by
  refine ⟨fun raw => ⟨worded_display raw, display_display raw, legal_identifier_display raw⟩,
    fun raw other same => ?_, fun method known path operationId textual => ?_⟩
  · exact identifier_injective (framed_display raw) (framed_display other) same
  · exact exists_legal_ofOperation known textual

/-- A keyword, in capitals and with marks around it, is canonical without them and gets an
underscore; the resource `s` has no singular, and its operation a name all the same. -/
theorem names_legal_of_keyword_and_resource :
    (identifier (display "--Yield") = "yield_" ∧ Legal "yield_") ∧
      ∃ name, ofOperation "post" "/api/v1/s" .null = .ok name ∧ name = "create_" ∧ Legal name := by
  have keyword : identifier (display "--Yield") = "yield_" := by decide +kernel
  obtain ⟨name, named, legal⟩ := names_legal.2.2 "post" (by decide) "/api/v1/s" .null (by simp [Json.truthy])
  refine ⟨⟨keyword, keyword ▸ (names_legal.1 "--Yield").2.2⟩, name, named, ?_, legal⟩
  have own : (ofOperation "post" "/api/v1/s" .null).toOption = some "create_" := by decide +kernel
  rw [named] at own
  exact Option.some.inj own

end TypedContract.Name
