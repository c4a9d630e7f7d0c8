/-
# TypedContract.Proofs.Literal.RoundTrip -- reading what was written

Reading a text trims its blanks, unifies its line ends and skips blank lines before it cuts
out words.  The text of a written value starts and ends with characters that none of this
touches and holds no line end (`SolidEnds`), so all of it is cut into words.  The words are
those of the value, they form its expression, and the expression has its value: reading
undoes writing (`decode_encode`).
-/
import TypedContract.Proofs.Literal.Delimited
import TypedContract.Proofs.Literal.Parsing
import TypedContract.Proofs.Text.Pieces

namespace TypedContract.Literal

set_option autoImplicit false

open Text

namespace Token

/-! ## Texts that are read whole -/

/-- The character is no blank and starts no comment and no escape. -/
def isSolid (c : Char) : Bool := !isBlank c && c != '\x00' && c != '#' && c != '\\'

/-- The character is kept when line ends are unified. -/
def isKept (c : Char) : Bool := c != '\x00' && c != '\r'

/-- The text starts and ends with solid characters and all of it is kept. -/
structure SolidEnds (text : List Char) : Prop where
  first : text.head?.any isSolid = true
  last : text.getLast?.any isSolid = true
  kept : ∀ c ∈ text, isKept c = true

variable {text inner : List Char} {a b c : Char}

theorem ne_of_isSolid {d : Char} (solid : isSolid c = true) (other : isSolid d = false) : c ≠ d := by
  rintro rfl
  rw [solid] at other
  cases other

theorem startsWord_of_isSolid (solid : isSolid c = true) : startsWord c = true :=
  startsWord_of_class solid rfl

theorem isKept_of_isSolid (solid : isSolid c = true) : isKept c = true := by
  have nul : c ≠ '\x00' := ne_of_isSolid solid (by decide)
  have carriage : c ≠ '\r' := ne_of_isSolid solid (by decide)
  simp [isKept, nul, carriage]

theorem SolidEnds.of_solid (nonempty : text ≠ []) (each : ∀ c ∈ text, isSolid c = true) :
    SolidEnds text where
  first := by
    rw [List.head?_eq_some_head nonempty]
    exact each _ (List.head_mem nonempty)
  last := by
    rw [List.getLast?_eq_some_getLast nonempty]
    exact each _ (List.getLast_mem nonempty)
  kept c member := isKept_of_isSolid (each c member)

theorem SolidEnds.between (opens : isSolid a = true) (closes : isSolid b = true)
    (kept : ∀ c ∈ inner, isKept c = true) : SolidEnds (a :: inner ++ [b]) where
  first := opens
  last := by
    rw [List.getLast?_concat]
    exact closes
  kept c member := by
    rcases List.mem_append.1 member with front | back
    · rcases List.mem_cons.1 front with rfl | inside
      · exact isKept_of_isSolid opens
      · exact kept c inside
    · obtain rfl := List.mem_singleton.1 back
      exact isKept_of_isSolid closes

/-! ## Reading a framed text -/

theorem not_isBlank_of_isSolid {c? : Option Char} (solid : c?.any isSolid = true) :
    ∀ c ∈ c?, isBlank c = false := by
  intro c found
  obtain rfl : c? = some c := found
  have own : isSolid c = true := solid
  simp only [isSolid, Bool.and_eq_true, Bool.not_eq_true'] at own
  simp [own]

theorem trimBoth_isBlank (framed : SolidEnds text) : trimBoth isBlank text = text :=
  trimBoth_eq_self (not_isBlank_of_isSolid framed.first) (not_isBlank_of_isSolid framed.last)

theorem unifyLines_of_kept (kept : ∀ c ∈ text, isKept c = true) : unifyLines text = text := by
  apply unifyLines_of_not_mem
  intro member
  cases kept '\r' member

theorem firstLine?_of_startsWord {bound : Nat} (starts : startsWord c = true) :
    firstLine? (bound + 1) (c :: text) = some (0, c :: text) := by
  simp only [startsWord, isGap, Bool.and_eq_true, bne_iff_ne, Bool.not_eq_true',
    Bool.or_eq_false_iff, beq_eq_false_iff_ne] at starts
  obtain ⟨⟨⟨⟨⟨space, tab⟩, feed⟩, comment⟩, line⟩, backslash⟩ := starts
  have start : indentation 0 0 (c :: text) = some (0, c :: text) := by
    rw [indentation.eq_def]
    split <;> simp_all
  simp only [firstLine?, start, Option.bind_eq_bind, Option.bind_some]
  split <;> simp_all

/-- All of a framed text is cut into words. -/
theorem ofText?_of_solidEnds (framed : SolidEnds text) :
    ofText? text = scan? (text.length + 1) 0 text := by
  have nul : text.contains '\x00' = false := by
    refine Bool.eq_false_iff.2 fun held => ?_
    cases framed.kept _ (List.contains_iff_mem.1 held)
  cases text with
  | nil => cases framed.first
  | cons c more =>
      rw [ofText?, nul]
      simp only [unifyLines_of_kept framed.kept,
        firstLine?_of_startsWord (startsWord_of_isSolid framed.first)]
      rfl

/-! ## The text of a value -/

theorem isSolid_of_isDecimalDigit (digit : isDecimalDigit c = true) : isSolid c = true := by
  have solid : ∀ code ∈ List.range' 48 10, isSolid (Char.ofNat code) = true := by decide
  simp only [isDecimalDigit, Bool.and_eq_true, decide_eq_true_eq, Char.le_def,
    UInt32.le_iff_toNat_le] at digit
  have own := solid c.toNat (List.mem_range'_1.2 ⟨digit.1, Nat.lt_succ_of_le digit.2⟩)
  rwa [Char.ofNat_toNat] at own

theorem isSolid_of_numeral {digits : List Char} (numeral : IsNumeral digits) :
    ∀ c ∈ digits, isSolid c = true :=
  fun c member => isSolid_of_isDecimalDigit (numeral.2 c member)

theorem isSolid_of_mem_chars (text : DoubleText) : ∀ c ∈ text.chars, isSolid c = true := by
  have pointed : ∀ c ∈ pointed text.fraction, isSolid c = true := by
    cases given : text.fraction with
    | none => exact fun c member => absurd member List.not_mem_nil
    | some digits =>
        exact List.forall_mem_cons.2 ⟨rfl, isSolid_of_numeral (text.numeral' digits given)⟩
  have marked : ∀ c ∈ marked text.exponent, isSolid c = true := by
    cases text.exponent with
    | none => exact fun c member => absurd member List.not_mem_nil
    | some exponent =>
        obtain ⟨digits, written, numeral, -⟩ := exponentText_eq exponent
        rw [Token.marked, written]
        refine List.forall_mem_cons.2 ⟨rfl, List.forall_mem_cons.2 ⟨?_, isSolid_of_numeral numeral⟩⟩
        split <;> rfl
  intro c member
  rcases List.mem_append.1 member with whole | member
  · exact isSolid_of_numeral text.numeral c whole
  · exact (List.mem_append.1 member).elim (pointed c) (marked c)

theorem isSolid_of_isQuote (isQuote : IsQuote c) : isSolid c = true := by
  rcases isQuote with rfl | rfl <;> rfl

theorem isKept_of_mem_hexEscape {code : Nat} : ∀ c ∈ hexEscape code, isKept c = true := by
  have digits : ∀ width, ∀ c ∈ hexDigits width code, isKept c = true := by
    intro width c member
    have digit := isDigitOf_of_mem_hexDigits c member
    have apart : ∀ d, isDigitOf 16 d = false → c ≠ d := by
      rintro d other rfl
      rw [digit] at other
      cases other
    simp [isKept, apart '\x00' rfl, apart '\r' rfl]
  have escape : ∀ letter width, isKept letter = true →
      ∀ c ∈ '\\' :: letter :: hexDigits width code, isKept c = true := fun letter width kept =>
    List.forall_mem_cons.2 ⟨rfl, List.forall_mem_cons.2 ⟨kept, digits width⟩⟩
  unfold hexEscape
  split
  · exact escape 'x' 2 rfl
  · split
    · exact escape 'u' 4 rfl
    · exact escape 'U' 8 rfl

theorem isKept_of_isPrintable (printable : isPrintable c = true) : isKept c = true := by
  have apart : ∀ d, isPrintable d = false → c ≠ d := by
    rintro d other rfl
    rw [printable] at other
    cases other
  simp [isKept, apart '\x00' rfl, apart '\r' rfl]

theorem isKept_of_mem_escapeChar {quote : Char} (isQuote : IsQuote quote) :
    ∀ d ∈ escapeChar quote c, isKept d = true := by
  unfold escapeChar
  split
  · rename_i special
    refine List.forall_mem_cons.2 ⟨rfl, List.forall_mem_singleton.2 ?_⟩
    simp only [Bool.or_eq_true, beq_iff_eq] at special
    rcases special with rfl | rfl
    · exact isKept_of_isSolid (isSolid_of_isQuote isQuote)
    · rfl
  split
  · exact List.forall_mem_cons.2 ⟨rfl, List.forall_mem_singleton.2 rfl⟩
  split
  · exact List.forall_mem_cons.2 ⟨rfl, List.forall_mem_singleton.2 rfl⟩
  split
  · exact List.forall_mem_cons.2 ⟨rfl, List.forall_mem_singleton.2 rfl⟩
  split
  · rename_i printable
    exact List.forall_mem_singleton.2 (isKept_of_isPrintable printable)
  · exact isKept_of_mem_hexEscape

theorem solidEnds_quoted (text : List Char) : SolidEnds (quoted text) := by
  have isQuote := isQuote_quoteFor text
  refine .between (isSolid_of_isQuote isQuote) (isSolid_of_isQuote isQuote) fun c member => ?_
  obtain ⟨own, -, member⟩ := List.mem_flatMap.1 member
  exact isKept_of_mem_escapeChar isQuote c member

theorem isKept_of_mem_joinWith {parts : List (List Char)}
    (each : ∀ part ∈ parts, ∀ c ∈ part, isKept c = true) :
    ∀ c ∈ joinWith Literal.comma parts, isKept c = true := by
  induction parts with
  | nil => exact fun c member => absurd member List.not_mem_nil
  | cons part others ih =>
      have rest := ih fun other member => each other (List.mem_cons_of_mem _ member)
      have own := each part List.mem_cons_self
      cases others with
      | nil => exact own
      | cons next others =>
          intro c member
          have member : c ∈ part ++ Literal.comma ++ joinWith Literal.comma (next :: others) := member
          simp only [List.mem_append] at member
          rcases member with (front | mark) | back
          · exact own c front
          · have kept : Literal.comma.all isKept = true := rfl
            exact List.all_eq_true.1 kept c mark
          · exact rest c back

theorem solidEnds_signed {negative : Bool} {chars : List Char} (nonempty : chars ≠ [])
    (each : ∀ c ∈ chars, isSolid c = true) :
    SolidEnds ((if negative then ['-'] else []) ++ chars) := by
  cases negative with
  | false => exact .of_solid nonempty each
  | true => exact .of_solid (List.cons_ne_nil _ _) (List.forall_mem_cons.2 ⟨rfl, each⟩)

/-- The text of a value is read whole. -/
theorem solidEnds_written {nested : Nat} {value : Json} (writable : value.Writable nested) :
    SolidEnds (ofJson value).written := by
  induction writable with
  | null => exact .of_solid (List.cons_ne_nil _ _) (List.all_eq_true.1 rfl : ∀ c ∈ "None".toList, _)
  | bool value =>
      show SolidEnds (writtenBool value)
      cases value <;> exact .of_solid (List.cons_ne_nil _ _) (List.all_eq_true.1 rfl)
  | @int nested value fits =>
      have numeral := isNumeral_toDigits value.natAbs
      have framed : SolidEnds ((if decide (value < 0) = true then ['-'] else []) ++ _) :=
        solidEnds_signed numeral.1 (isSolid_of_numeral numeral)
      simp only [decide_eq_true_eq] at framed
      exact framed
  | @double nested value finite =>
      cases value with
      | finite negative index =>
          obtain ⟨text, written, -⟩ := exists_doubleText negative index
          have nonempty : text.chars ≠ [] := by simp [DoubleText.chars, text.numeral.1]
          show SolidEnds ((Double.finite negative index).textWith .plain)
          rw [written]
          exact solidEnds_signed nonempty (isSolid_of_mem_chars text)
      | infinite | nan => cases finite
  | str value => exact solidEnds_quoted value.toList
  | @list nested items each ih =>
      show SolidEnds ('[' :: joinWith Literal.comma (writtenItems (ofItems items)) ++ [']'])
      refine .between rfl rfl (isKept_of_mem_joinWith ?_)
      clear each
      induction items with
      | nil => exact fun part member => absurd member List.not_mem_nil
      | cons item others inside =>
          exact List.forall_mem_cons.2 ⟨(ih item List.mem_cons_self).kept,
            inside fun other member => ih other (List.mem_cons_of_mem _ member)⟩
  | @object nested entries distinct each ih =>
      show SolidEnds
        ('\x7b' :: joinWith Literal.comma (writtenEntries (ofEntries entries)) ++ ['\x7d'])
      refine .between rfl rfl (isKept_of_mem_joinWith ?_)
      clear each distinct
      induction entries with
      | nil => exact fun part member => absurd member List.not_mem_nil
      | cons entry others inside =>
          obtain ⟨key, value⟩ := entry
          refine List.forall_mem_cons.2
            ⟨?_, inside fun other member => ih other (List.mem_cons_of_mem _ member)⟩
          exact List.forall_mem_append.2 ⟨(solidEnds_quoted key.toList).kept, List.forall_mem_cons.2
            ⟨rfl, List.forall_mem_cons.2 ⟨rfl, (ih (key, value) List.mem_cons_self).kept⟩⟩⟩

end Token

/-! ## Round trip -/

/-- What is read of a written value is the value. -/
theorem read_written {value : Json} (writable : value.Writable Token.nestingLimit) :
    read value.written = .ok (ofJson value) := by
  have framed := Token.solidEnds_written writable
  have words : Token.ofText? (ofJson value).written = some (Token.tokens value) := by
    have scans := @Token.scans_written _ _ writable 0 [] [] (by omega) rfl Token.Scans.nil
    simp only [List.append_nil] at scans
    rw [Token.ofText?_of_solidEnds framed]
    exact scans _ (Nat.le_succ _)
  rw [read, Json.written, String.toList_ofList, Token.trimBoth_isBlank framed, words,
    Option.bind_some, Expression.ofTokens?_tokens writable]
  dsimp only
  rw [Expression.value_expression writable]

/-- A JSON value that keeps to the limits is written. -/
theorem encode_eq_written {value : Json} (writable : value.Writable Token.nestingLimit) :
    value.encode = .ok value.written := by
  rw [Json.encode, encode, encodeChars_ofJson writable]
  rfl

/-- What is written for a JSON value is read as that value. -/
theorem decode_written {value : Json} (writable : value.Writable Token.nestingLimit) :
    decode value.written = .ok value := by
  have back : (ofJson value).toJson = .ok value := toJsonAt_ofJson writable "$"
  rw [decode, read_written writable]
  dsimp only [bind, Except.bind]
  rw [back]

/-- Every JSON value that keeps to the limits is written, and what is written is read as that
value. -/
theorem decode_encode {value : Json} (writable : value.Writable Token.nestingLimit) :
    ∃ text, value.encode = .ok text ∧ decode text = .ok value :=
  ⟨value.written, encode_eq_written writable, decode_written writable⟩

/-- One, one as a double and truth stay apart, and so do the two quotes beside a control
character. -/
theorem decode_encode_mixed : ∃ text,
    Json.encode (.object [("b", .list [.int 1, .double (.ofInt 1), .bool true]), ("a", .str "'\"\x07")]) =
      .ok text ∧ decode text =
    .ok (.object [("b", .list [.int 1, .double (.ofInt 1), .bool true]), ("a", .str "'\"\x07")]) := by
  refine decode_encode (.object (by decide) ?_)
  simp only [List.forall_mem_cons]
  refine ⟨.list ?_, .str _, by simp⟩
  simp only [List.forall_mem_cons]
  exact ⟨.int (by decide +kernel), .double (by decide +kernel), .bool true, by simp⟩

end TypedContract.Literal
