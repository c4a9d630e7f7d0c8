/-
# TypedContract.Proofs.Literal.Quoted -- quoted texts are read back

A quoted text escapes one character after the other, so its body is found, and its escapes
are replaced, one character after the other.  A character stands between the quotes as it
is, after a backslash, or as a hexadecimal escape of a fixed width.
-/
import TypedContract.Proofs.Literal.Number
import TypedContract.Text.Quoted

namespace TypedContract.Literal.Token

set_option autoImplicit false

open Text

/-- One of the two quotes. -/
def IsQuote (quote : Char) : Prop := quote = '\'' ∨ quote = '"'

theorem isQuote_quoteFor (text : List Char) : IsQuote (quoteFor text) := by
  unfold quoteFor
  split
  · exact .inr rfl
  · exact .inl rfl

variable {quote c : Char} {rest : List Char}

/-! ## Hexadecimal digits -/

theorem length_hexDigits {width n : Nat} (positive : 0 < width) (fits : n < 16 ^ width) :
    (hexDigits width n).length = width := by
  have short : (Nat.toDigits 16 n).length ≤ width :=
    (Nat.length_toDigits_le_iff (by omega) positive).2 fits
  simp only [hexDigits, List.length_append, List.length_replicate]
  omega

theorem isDigitOf_of_mem_hexDigits {width n : Nat} :
    ∀ c ∈ hexDigits width n, isDigitOf 16 c = true := by
  intro c member
  rcases List.mem_append.1 member with front | own
  · obtain rfl := List.eq_of_mem_replicate front
    rfl
  · exact isDigitOf_of_mem_toDigits (by omega) (by omega) n c own

theorem hex?_hexDigits {width n : Nat} : hex? (hexDigits width n) = some n := by
  have value : ofDigits 16 (hexDigits width n) = n := by
    unfold hexDigits
    rw [ofDigits_append, ofDigits_replicate_zero, ofDigits_toDigits (by omega) (by omega)]
    simp
  rw [hex?, if_pos (List.all_eq_true.2 isDigitOf_of_mem_hexDigits), value]

theorem charOf?_toNat : charOf? c.toNat = some c := by
  rw [charOf?, if_pos (by exact c.valid), Char.ofNat_toNat]

/-- A letter that takes hexadecimal digits to a code point escapes a character that fits. -/
theorem escape?_hexDigits {letter : Char} {width : Nat}
    (takes : ∀ digits rest : List Char, digits.length = width →
      escape? (letter :: (digits ++ rest)) =
        (hex? digits).bind fun code => (charOf? code).bind fun c => some ([c], rest))
    (positive : 0 < width) (fits : c.toNat < 16 ^ width) (rest : List Char) :
    escape? (letter :: (hexDigits width c.toNat ++ rest)) = some ([c], rest) := by
  rw [takes _ rest (length_hexDigits positive fits), hex?_hexDigits, Option.bind_some,
    charOf?_toNat, Option.bind_some]

/-- A hexadecimal escape stands for its character. -/
theorem hexEscape_eq : ∃ letter width,
    hexEscape c.toNat = '\\' :: letter :: hexDigits width c.toNat ∧
      ∀ rest, escape? (letter :: (hexDigits width c.toNat ++ rest)) = some ([c], rest) := by
  by_cases byte : c.toNat < 0x100
  · refine ⟨'x', 2, by rw [hexEscape, if_pos byte],
      escape?_hexDigits (fun digits rest width => ?_) (by omega) byte⟩
    match digits, width with
    | [a, b], _ => rfl
  by_cases unit : c.toNat < 0x10000
  · refine ⟨'u', 4, by rw [hexEscape, if_neg byte, if_pos unit],
      escape?_hexDigits (fun digits rest width => ?_) (by omega) unit⟩
    match digits, width with
    | [a, b, d, e], _ => rfl
  · have wide : c.toNat < 16 ^ 8 := by
      have valid : c.toNat.isValidChar := c.valid
      unfold Nat.isValidChar at valid
      omega
    refine ⟨'U', 8, by rw [hexEscape, if_neg byte, if_neg unit],
      escape?_hexDigits (fun digits rest width => ?_) (by omega) wide⟩
    match digits, width with
    | [a, b, d, e, f, g, h, i], _ => rfl

/-! ## One character -/

/-- A character that means itself between quotes. -/
def IsPlain (quote c : Char) : Prop := c ≠ '\\' ∧ c ≠ quote ∧ c ≠ '\n'

theorem isPlain_of_isDigitOf (isQuote : IsQuote quote) (digit : isDigitOf 16 c = true) :
    IsPlain quote c := by
  refine ⟨?_, ?_, ?_⟩
  · rintro rfl
    cases digit
  · rintro rfl
    rcases isQuote with rfl | rfl <;> cases digit
  · rintro rfl
    cases digit

/-- What follows a backslash stands for one character and does not end the text. -/
structure Escapes (quote c first : Char) (others : List Char) : Prop where
  meant : ∀ rest, escape? (first :: (others ++ rest)) = some ([c], rest)
  plain : ∀ d ∈ others, IsPlain quote d

/-- A character stands between quotes as it is or after a backslash. -/
theorem escapeChar_cases (isQuote : IsQuote quote) (c : Char) :
    (escapeChar quote c = [c] ∧ IsPlain quote c) ∨
      ∃ first others, escapeChar quote c = '\\' :: first :: others ∧
        Escapes quote c first others := by
  unfold escapeChar
  by_cases special : (c == quote || c == '\\') = true
  · rw [if_pos special]
    refine .inr ⟨c, [], rfl, fun rest => ?_, by simp⟩
    simp only [Bool.or_eq_true, beq_iff_eq] at special
    rcases special with rfl | rfl
    · rcases isQuote with rfl | rfl <;> rfl
    · rfl
  rw [if_neg special]
  simp only [Bool.or_eq_true, beq_iff_eq, not_or] at special
  by_cases line : (c == '\n') = true
  · obtain rfl := eq_of_beq line
    exact .inr ⟨'n', [], rfl, fun rest => rfl, by simp⟩
  rw [if_neg line]
  by_cases carriage : (c == '\r') = true
  · obtain rfl := eq_of_beq carriage
    exact .inr ⟨'r', [], rfl, fun rest => rfl, by simp⟩
  rw [if_neg carriage]
  by_cases tab : (c == '\t') = true
  · obtain rfl := eq_of_beq tab
    exact .inr ⟨'t', [], rfl, fun rest => rfl, by simp⟩
  rw [if_neg tab]
  by_cases printable : isPrintable c = true
  · rw [if_pos printable]
    exact .inl ⟨rfl, special.2, special.1, by simpa using line⟩
  · rw [if_neg printable]
    obtain ⟨letter, width, same, meant⟩ := hexEscape_eq (c := c)
    exact .inr ⟨letter, hexDigits width c.toNat, same, meant, fun d member =>
      isPlain_of_isDigitOf isQuote (isDigitOf_of_mem_hexDigits d member)⟩

/-! ## The body of a text -/

theorem body?_plain (plain : IsPlain quote c) (rest : List Char) : body? quote false (c :: rest) =
    (body? quote false rest).map fun (text, after) => (c :: text, after) := by
  obtain ⟨backslash, apart, line⟩ := plain
  rw [body?.eq_def]
  split
  · rename_i same
    exact absurd (List.cons.inj same).1 backslash
  · rename_i same
    cases same
    simp [apart, line]
  · rename_i same
    cases same
    simp [apart, line]
  · rename_i same
    cases same

theorem body?_plains {others : List Char} (plain : ∀ d ∈ others, IsPlain quote d)
    (rest : List Char) : body? quote false (others ++ rest) =
      (body? quote false rest).map fun (text, after) => (others ++ text, after) := by
  induction others with
  | nil => simp
  | cons d more ih =>
      rw [List.cons_append, body?_plain (plain d List.mem_cons_self),
        ih fun other member => plain other (List.mem_cons_of_mem _ member), Option.map_map]
      rfl

theorem body?_escapeChar (isQuote : IsQuote quote) (c : Char) (rest : List Char) :
    body? quote false (escapeChar quote c ++ rest) =
      (body? quote false rest).map fun (text, after) => (escapeChar quote c ++ text, after) := by
  rcases escapeChar_cases isQuote c with ⟨same, plain⟩ | ⟨first, others, same, escapes⟩
  · rw [same]
    exact body?_plain plain rest
  · rw [same]
    show body? quote false ('\\' :: first :: (others ++ rest)) = _
    rw [body?, body?_plains escapes.plain, Option.map_map]
    rfl

theorem body?_close (isQuote : IsQuote quote) (rest : List Char) :
    body? quote false (quote :: rest) = some ([], rest) := by
  rw [body?.eq_def]
  split
  · rename_i same
    rcases isQuote with rfl | rfl <;> cases same
  · rename_i same
    cases same
    simp
  · rename_i same
    cases same
    simp
  · rename_i same
    cases same

theorem body?_escaped (isQuote : IsQuote quote) (text rest : List Char) :
    body? quote false (text.flatMap (escapeChar quote) ++ quote :: rest) =
      some (text.flatMap (escapeChar quote), rest) := by
  induction text with
  | nil => exact body?_close isQuote rest
  | cons c more ih =>
      rw [List.flatMap_cons, List.append_assoc, body?_escapeChar isQuote, ih]
      rfl

/-! ## The escapes of a text -/

theorem unescape?_plain {bound : Nat} (backslash : c ≠ '\\') (rest : List Char) :
    unescape? (bound + 1) (c :: rest) = (unescape? bound rest).map (c :: ·) := by
  rw [unescape?.eq_def]
  split
  · rename_i same
    cases same
  · rename_i zero _
    cases zero
  · rename_i same
    exact absurd (List.cons.inj same).1 backslash
  · rename_i succ same
    cases succ
    cases same
    cases unescape? bound rest <;> rfl

/-- The escaped characters stand for the text. -/
theorem unescape?_escaped (isQuote : IsQuote quote) {text : List Char} {bound : Nat}
    (enough : (text.flatMap (escapeChar quote)).length ≤ bound) :
    unescape? bound (text.flatMap (escapeChar quote)) = some text := by
  induction text generalizing bound with
  | nil => cases bound <;> rfl
  | cons c more ih =>
      rw [List.flatMap_cons] at enough ⊢
      rcases escapeChar_cases isQuote c with ⟨same, plain⟩ | ⟨first, others, same, escapes⟩
      · rw [same] at enough ⊢
        obtain ⟨bound, rfl⟩ : ∃ less, bound = less + 1 := ⟨bound - 1, by simp at enough; omega⟩
        rw [List.singleton_append, unescape?_plain plain.1, ih (by simpa using enough)]
        rfl
      · rw [same] at enough ⊢
        simp only [List.length_append, List.length_cons] at enough
        obtain ⟨bound, rfl⟩ : ∃ less, bound = less + 1 := ⟨bound - 1, by omega⟩
        show unescape? (bound + 1) ('\\' :: first :: (others ++ _)) = _
        rw [unescape?, escapes.meant, Option.bind_eq_bind, Option.bind_some]
        dsimp only
        rw [ih (by omega)]
        rfl

/-! ## Quoted texts as tokens -/

theorem quoted?_quoted (isQuote : IsQuote quote) (text : List Char)
    (delimited : isDelimited rest = true) :
    quoted? false false quote (text.flatMap (escapeChar quote) ++ quote :: rest) =
      some (.textPiece text, rest) := by
  -- a text in one pair of quotes is not taken for one in three
  have single : ∀ a b after, text.flatMap (escapeChar quote) ++ quote :: rest = a :: b :: after →
      (a == quote && b == quote) = false := by
    intro a b after same
    cases text with
    | nil =>
        cases rest with
        | nil => cases same
        | cons c more =>
            cases same
            have apart : b ≠ quote := by
              rintro rfl
              rcases isQuote with rfl | rfl <;> cases delimited
            simp [apart]
    | cons c more =>
        rw [List.flatMap_cons] at same
        have apart : a ≠ quote := by
          rcases escapeChar_cases isQuote c with ⟨own, plain⟩ | ⟨first, others, own, escapes⟩
          · rw [own] at same
            have front : c = a := (List.cons.inj same).1
            exact front ▸ plain.2.1
          · rw [own] at same
            have front : '\\' = a := (List.cons.inj same).1
            rw [← front]
            rcases isQuote with rfl | rfl <;> decide
        simp [apart]
  have content : content? false false (text.flatMap (escapeChar quote)) = some (.textPiece text) := by
    show (unescape? _ _).map Token.textPiece = _
    rw [unescape?_escaped isQuote (Nat.le_refl _), Option.map_some]
  unfold quoted?
  generalize same : text.flatMap (escapeChar quote) ++ quote :: rest = body at single
  have read : body? quote false body = some (text.flatMap (escapeChar quote), rest) :=
    same ▸ body?_escaped isQuote text rest
  split
  rename_i triple start found
  have plain : triple = false ∧ start = body := by
    split at found
    · rename_i a b after
      rw [single a b after rfl] at found
      cases found
      exact ⟨rfl, rfl⟩
    · cases found
      exact ⟨rfl, rfl⟩
  obtain ⟨rfl, rfl⟩ := plain
  simp [read, content]

/-- A quoted text is read as one piece of text. -/
theorem next?_quoted (text : List Char) (delimited : isDelimited rest = true) :
    next? (quoted text ++ rest) = some (.textPiece text, rest) := by
  have isQuote := isQuote_quoteFor text
  have read := quoted?_quoted isQuote text delimited
  simp only [quoted, quoteWith, List.cons_append, List.append_assoc, List.nil_append]
  rcases isQuote with quote | quote <;> rw [quote] at read ⊢ <;> exact read

end TypedContract.Literal.Token
