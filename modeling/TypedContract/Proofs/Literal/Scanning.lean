/-
# TypedContract.Proofs.Literal.Scanning -- the words of a written value

`tokens` lists the words of a value as it is written.  Reading the standard text of the
value gives these words (`scans_written`): after each of them the text goes on with a mark,
so no word runs into the next, and the brackets of a value are closed at its end.
-/
import TypedContract.Proofs.Literal.Double
import TypedContract.Proofs.Literal.Quoted
import TypedContract.Proofs.Literal.Writable

namespace TypedContract.Literal

set_option autoImplicit false

/-! ## The words of a value -/

/-- The sign of a finite double. -/
def isNegative : Double → Bool
  | .finite negative _ => negative
  | _ => false

/-- A finite double without its sign. -/
def magnitude : Double → Double
  | .finite _ index => .finite false index
  | other => other

namespace Token

/-- A number after its sign. -/
def signed (negative : Bool) (value : Literal) : List Token :=
  (if negative then [.minus] else []) ++ [.number value]

mutual

/-- The words of a value. -/
def tokens : Json → List Token
  | .null => [.constant .null]
  | .bool value => [.constant (.bool value)]
  | .int value => signed (value < 0) (.int value.natAbs)
  | .double value => signed (isNegative value) (.double (magnitude value))
  | .str value => [.textPiece value.toList]
  | .list items => .opening .square :: itemTokens items
  | .object entries => .opening .curly :: entryTokens entries

/-- The words of the items and of the bracket after them. -/
def itemTokens : List Json → List Token
  | [] => [.closing .square]
  | [item] => tokens item ++ [.closing .square]
  | item :: rest => tokens item ++ .comma :: itemTokens rest

/-- The words of the entries and of the brace after them. -/
def entryTokens : List (String × Json) → List Token
  | [] => [.closing .curly]
  | [(key, value)] => .textPiece key.toList :: .colon :: (tokens value ++ [.closing .curly])
  | (key, value) :: rest =>
      .textPiece key.toList :: .colon :: (tokens value ++ .comma :: entryTokens rest)

end

/-! ## Reading word by word -/

/-- The text with some brackets open is read as these words. -/
def Scans (depth : Nat) (text : List Char) (words : List Token) : Prop :=
  ∀ bound, text.length ≤ bound → scan? bound depth text = some words

/-- A character that starts a word. -/
def startsWord (c : Char) : Bool := !isGap c && c != '#' && c != '\n' && c != '\\'

namespace Scans

variable {depth after : Nat} {chars rest : List Char} {token : Token} {more : List Token}

theorem nil : Scans depth [] [] := by
  intro bound _
  cases bound <;> rfl

theorem space (scans : Scans depth rest more) : Scans depth (' ' :: rest) more := by
  intro bound enough
  obtain ⟨bound, rfl⟩ : ∃ less, bound = less + 1 := ⟨bound - 1, by simp at enough; omega⟩
  exact scans bound (by simpa using enough)

theorem word (starts : chars.head?.any startsWord = true)
    (read : next? (chars ++ rest) = some (token, rest))
    (open_ : depthAfter? depth token = some after) (scans : Scans after rest more) :
    Scans depth (chars ++ rest) (token :: more) := by
  intro bound enough
  cases chars with
  | nil => cases starts
  | cons c others =>
      simp only [List.head?_cons, Option.any_some, startsWord, Bool.and_eq_true, bne_iff_ne,
        Bool.not_eq_true'] at starts
      obtain ⟨⟨⟨gap, comment⟩, line⟩, backslash⟩ := starts
      obtain ⟨bound, rfl⟩ : ∃ less, bound = less + 1 := ⟨bound - 1, by simp at enough; omega⟩
      have inside := scans bound (by simp at enough; omega)
      rw [List.cons_append] at read ⊢
      rw [scan?.eq_def]
      simp [gap, comment, line, backslash, read, open_, inside]

/-- A mark that opens no bracket and closes none. -/
theorem mark {c : Char} (starts : startsWord c = true) (mark : mark? c = some token)
    (open_ : depthAfter? depth token = some after) (scans : Scans after rest more) :
    Scans depth (c :: rest) (token :: more) :=
  @word _ _ [c] _ _ _ starts (by rw [List.singleton_append, next?, mark]) open_ scans

end Scans

variable {depth nested : Nat} {rest : List Char} {more : List Token}

/-! ## Words -/

theorem named?_append {name : List Char} (each : ∀ c ∈ name, continuesWord c = true)
    (delimited : isDelimited rest = true) : named? (name ++ rest) = (word? name).map (·, rest) := by
  have ends : rest.takeWhile continuesWord = [] ∧ rest.dropWhile continuesWord = rest := by
    cases rest with
    | nil => exact ⟨rfl, rfl⟩
    | cons c more => rcases delimiter_cases delimited with rfl | rfl | rfl | rfl <;> exact ⟨rfl, rfl⟩
  simp only [named?, List.takeWhile_append_of_pos each, List.dropWhile_append_of_pos each, ends,
    List.append_nil]
  cases rest with
  | nil => rfl
  | cons c more => rcases delimiter_cases delimited with rfl | rfl | rfl | rfl <;> rfl

theorem next?_none (delimited : isDelimited rest = true) :
    next? ("None".toList ++ rest) = some (.constant .null, rest) :=
  (@named?_append rest "None".toList (List.all_eq_true.1 rfl) delimited).trans rfl

theorem next?_bool (value : Bool) (delimited : isDelimited rest = true) :
    next? (writtenBool value ++ rest) = some (.constant (.bool value), rest) := by
  cases value with
  | true => exact (@named?_append rest "True".toList (List.all_eq_true.1 rfl) delimited).trans rfl
  | false => exact (@named?_append rest "False".toList (List.all_eq_true.1 rfl) delimited).trans rfl

theorem scans_signed {negative : Bool} {value : Literal} {chars : List Char}
    (starts : chars.head?.any startsWord = true)
    (read : next? (chars ++ rest) = some (.number value, rest)) (scans : Scans depth rest more) :
    Scans depth ((if negative then ['-'] else []) ++ chars ++ rest)
      (signed negative value ++ more) := by
  have number : Scans depth (chars ++ rest) (.number value :: more) := .word starts read rfl scans
  cases negative with
  | false => exact number
  | true => exact .mark rfl rfl rfl number

/-- A character of a class without gaps, comments and line ends starts a word. -/
theorem startsWord_of_class {class? : Char → Bool} {c : Char} (inside : class? c = true)
    (outside : [' ', '\t', '\x0c', '#', '\n', '\\'].all (fun d => !class? d) = true) :
    startsWord c = true := by
  have apart : ∀ d ∈ [' ', '\t', '\x0c', '#', '\n', '\\'], c ≠ d := by
    rintro d member rfl
    have other := List.all_eq_true.1 outside c member
    rw [inside] at other
    cases other
  simp only [List.mem_cons, List.not_mem_nil, or_false, forall_eq_or_imp, forall_eq] at apart
  simp [startsWord, isGap, apart]

theorem startsWord_of_numeral {digits : List Char} (numeral : IsNumeral digits) :
    digits.head?.any startsWord = true := by
  cases digits with
  | nil => exact absurd rfl numeral.1
  | cons c more =>
      have digit : Text.isDecimalDigit c = true := numeral.2 c List.mem_cons_self
      exact startsWord_of_class digit rfl

theorem startsWord_quoted (text : List Char) :
    (Text.quoted text).head?.any startsWord = true := by
  rcases isQuote_quoteFor text with quote | quote <;>
    simp [Text.quoted, Text.quoteWith, quote, startsWord, isGap]

/-! ## Values -/

/-- Wherever a mark or the end follows, the written value is read as its words. -/
def ScansWritten (nested : Nat) (value : Json) : Prop :=
  ∀ {depth : Nat} {rest : List Char} {more : List Token}, depth + nested ≤ nestingLimit →
    isDelimited rest = true → Scans depth rest more →
      Scans depth ((ofJson value).written ++ rest) (tokens value ++ more)

theorem scans_items {items : List Json} (each : ∀ item ∈ items, ScansWritten nested item)
    (fits : depth + nested ≤ nestingLimit)
    (closes : Scans depth (']' :: rest) (.closing .square :: more)) :
    Scans depth (Text.joinWith Literal.comma (writtenItems (ofItems items)) ++ ']' :: rest)
      (itemTokens items ++ more) := by
  induction items with
  | nil => exact closes
  | cons item others ih =>
      have own := @each item List.mem_cons_self
      cases others with
      | nil =>
          rw [itemTokens, List.append_assoc]
          exact own fits rfl closes
      | cons next others =>
          have after := ih fun other member => @each other (List.mem_cons_of_mem _ member)
          show Scans depth (((ofJson item).written ++ Literal.comma ++ Text.joinWith Literal.comma
            (writtenItems (ofItems (next :: others)))) ++ ']' :: rest) _
          rw [itemTokens, List.append_assoc, List.append_assoc, List.append_assoc]
          · exact own fits rfl (.mark rfl rfl rfl (.space after))
          · exact List.cons_ne_nil _ _

theorem scans_entries {entries : List (String × Json)}
    (each : ∀ entry ∈ entries, ScansWritten nested entry.2)
    (fits : depth + nested ≤ nestingLimit)
    (closes : Scans depth ('\x7d' :: rest) (.closing .curly :: more)) :
    Scans depth (Text.joinWith Literal.comma (writtenEntries (ofEntries entries)) ++ '\x7d' :: rest)
      (entryTokens entries ++ more) := by
  have entry : ∀ {key : String} {value : Json} {rest : List Char} {more : List Token},
      ScansWritten nested value → isDelimited rest = true → Scans depth rest more →
      Scans depth (Text.quoted key.toList ++ ':' :: ' ' :: ((ofJson value).written ++ rest))
        (.textPiece key.toList :: .colon :: (tokens value ++ more)) := by
    intro key value rest more own delimited scans
    exact .word (startsWord_quoted key.toList) (next?_quoted key.toList rfl) rfl
      (.mark rfl rfl rfl (.space (own fits delimited scans)))
  induction entries with
  | nil => exact closes
  | cons first others ih =>
      obtain ⟨key, value⟩ := first
      have own := @each (key, value) List.mem_cons_self
      cases others with
      | nil =>
          show Scans depth ((Text.quoted key.toList ++ ':' :: ' ' :: (ofJson value).written) ++ _) _
          simp only [entryTokens, List.append_assoc, List.cons_append]
          exact entry own rfl closes
      | cons next others =>
          have after := ih fun other member => @each other (List.mem_cons_of_mem _ member)
          show Scans depth (((Text.quoted key.toList ++ ':' :: ' ' :: (ofJson value).written) ++
            Literal.comma ++ Text.joinWith Literal.comma
              (writtenEntries (ofEntries (next :: others)))) ++ '\x7d' :: rest) _
          rw [entryTokens]
          · simp only [List.append_assoc, List.cons_append]
            exact entry own rfl (.mark rfl rfl rfl (.space after))
          · exact List.cons_ne_nil _ _

/-- A decimal number starts with a digit. -/
theorem startsWord_chars (text : DoubleText) : text.chars.head?.any startsWord = true := by
  have front := startsWord_of_numeral text.numeral
  cases whole : text.whole with
  | nil => exact absurd whole text.numeral.1
  | cons c others =>
      rw [whole] at front
      rw [DoubleText.chars, whole]
      exact front

/-- A written value is read as its words. -/
theorem scans_written {value : Json} (writable : value.Writable nested) :
    ScansWritten nested value := by
  induction writable with
  | null =>
      intro depth rest more fits delimited scans
      exact .word rfl (next?_none delimited) rfl scans
  | bool value =>
      intro depth rest more fits delimited scans
      exact .word (by cases value <;> rfl) (next?_bool value delimited) rfl scans
  | @int nested value keeps =>
      intro depth rest more fits delimited scans
      have sign : writtenInt value = (if decide (value < 0) = true then ['-'] else []) ++
          Nat.toDigits 10 value.natAbs := by
        simp [writtenInt]
      show Scans depth (writtenInt value ++ rest) _
      rw [sign]
      exact scans_signed (startsWord_of_numeral (isNumeral_toDigits _))
        (next?_natural (natAbs_lt_of_withinDigits keeps) delimited) scans
  | @double nested value finite =>
      intro depth rest more fits delimited scans
      cases value with
      | finite negative index =>
          obtain ⟨text, written, same⟩ := exists_doubleText negative index
          have read := next?_chars text delimited
          rw [same] at read
          show Scans depth ((Double.finite negative index).textWith .plain ++ rest) _
          rw [written]
          exact scans_signed (startsWord_chars text) read scans
      | infinite | nan => cases finite
  | str value =>
      intro depth rest more fits delimited scans
      exact .word (startsWord_quoted value.toList) (next?_quoted value.toList delimited) rfl scans
  | @list nested items each ih =>
      intro depth rest more fits delimited scans
      -- the value nests at most as deep as the limit allows, so the bracket may open
      have opens : depthAfter? depth (.opening .square) = some (depth + 1) := by
        rw [depthAfter?, if_pos (by omega)]
      have closes : Scans (depth + 1) (']' :: rest) (.closing .square :: more) :=
        .mark rfl rfl rfl scans
      have inside := scans_items (fun item member => ih item member) (by omega) closes
      show Scans depth (('[' :: Text.joinWith Literal.comma (writtenItems (ofItems items)) ++ [']'])
        ++ rest) (.opening .square :: (itemTokens items ++ more))
      rw [List.append_assoc]
      exact .mark rfl rfl opens inside
  | @object nested entries distinct each ih =>
      intro depth rest more fits delimited scans
      have opens : depthAfter? depth (.opening .curly) = some (depth + 1) := by
        rw [depthAfter?, if_pos (by omega)]
      have closes : Scans (depth + 1) ('\x7d' :: rest) (.closing .curly :: more) :=
        .mark rfl rfl rfl scans
      have inside := scans_entries (fun entry member => ih entry member) (by omega) closes
      show Scans depth (('\x7b' :: Text.joinWith Literal.comma (writtenEntries (ofEntries entries))
        ++ ['\x7d']) ++ rest) (.opening .curly :: (entryTokens entries ++ more))
      rw [List.append_assoc]
      exact .mark rfl rfl opens inside

end Token

end TypedContract.Literal
