/-
# TypedContract.Proofs.Literal.Number -- written numbers are read back

A number is cut off where its digits end, so what is read of a written number depends on
the text after it only in that it must begin with no character of a word.  After a value
stands nothing or one of four marks (`isDelimited`), and these all end a number.
-/
import TypedContract.Double.Shortest
import TypedContract.Literal.Token
import TypedContract.Proofs.Text.BaseDigit

namespace TypedContract.Literal.Token

set_option autoImplicit false

open Text

/-- The text is at its end or goes on with a mark that can follow a value. -/
def isDelimited : List Char → Bool
  | [] => true
  | c :: _ => c == ',' || c == ':' || c == ']' || c == '\x7d'

/-- The text does not go on with a digit. -/
def endsDigits : List Char → Bool
  | [] => true
  | c :: _ => !isDecimalDigit c && c != '_'

variable {digits whole fraction rest : List Char}

/-- All characters are decimal digits and there is one. -/
def IsNumeral (digits : List Char) : Prop :=
  digits ≠ [] ∧ ∀ c ∈ digits, isDecimalDigit c = true

theorem isNumeral_toDigits (n : Nat) : IsNumeral (Nat.toDigits 10 n) := by
  refine ⟨Nat.toDigits_ne_nil, fun c member => ?_⟩
  rw [← isDigitOf_ten]
  exact isDigitOf_of_mem_toDigits (by omega) (by omega) n c member

/-! ## What follows -/

theorem delimiter_cases {c : Char} (delimited : isDelimited (c :: rest) = true) :
    c = ',' ∨ c = ':' ∨ c = ']' ∨ c = '\x7d' := by
  simpa [isDelimited, or_assoc] using delimited

theorem endsDigits_of_delimited (delimited : isDelimited rest = true) :
    endsDigits rest = true := by
  cases rest with
  | nil => rfl
  | cons c more => rcases delimiter_cases delimited with rfl | rfl | rfl | rfl <;> rfl

theorem atWordEnd_of_delimited (delimited : isDelimited rest = true) :
    atWordEnd rest = true := by
  cases rest with
  | nil => rfl
  | cons c more => rcases delimiter_cases delimited with rfl | rfl | rfl | rfl <;> rfl

/-! ## Runs of digits -/

theorem digitRun_of_endsDigits (ends : endsDigits rest = true) : digitRun 10 rest = ([], rest) := by
  cases rest with
  | nil => rfl
  | cons c more =>
      simp only [endsDigits, Bool.and_eq_true, Bool.not_eq_true', bne_iff_ne, ne_eq] at ends
      rw [digitRun.eq_def]
      split
      · rename_i same
        cases same
        exact absurd rfl ends.2
      · rename_i same
        cases same
        rw [if_neg (by simp [isDigitOf_ten, ends.1])]
      · rename_i same
        cases same

theorem digitRun_append (each : ∀ c ∈ digits, isDecimalDigit c = true)
    (ends : endsDigits rest = true) : digitRun 10 (digits ++ rest) = (digits, rest) := by
  induction digits with
  | nil => exact digitRun_of_endsDigits ends
  | cons c more ih =>
      have digit : isDecimalDigit c = true := each c List.mem_cons_self
      have inside := ih fun other member => each other (List.mem_cons_of_mem _ member)
      have apart : c ≠ '_' := by
        rintro rfl
        cases digit
      rw [List.cons_append, digitRun.eq_def]
      split
      · rename_i same
        exact absurd (List.cons.inj same).1 apart
      · rename_i same
        cases same
        rw [if_pos (by rw [isDigitOf_ten, digit]), inside]
      · rename_i same
        cases same

theorem decimalRun_append (numeral : IsNumeral digits) (ends : endsDigits rest = true) :
    decimalRun (digits ++ rest) = (digits, rest) := by
  cases digits with
  | nil => exact absurd rfl numeral.1
  | cons c more =>
      rw [List.cons_append, decimalRun, if_pos (numeral.2 c List.mem_cons_self),
        ← List.cons_append, digitRun_append numeral.2 ends]

/-! ## Decimal numbers -/

/-- The digits after a point, if there are any. -/
def pointed : Option (List Char) → List Char
  | none => []
  | some fraction => '.' :: fraction

/-- An exponent after its mark, if there is one. -/
def marked : Option Int → List Char
  | none => []
  | some exponent => 'e' :: Double.exponentText exponent

theorem exponentText_eq (exponent : Int) : ∃ digits,
    Double.exponentText exponent = (if exponent < 0 then '-' else '+') :: digits ∧
      IsNumeral digits ∧ ofDigits 10 digits = exponent.natAbs := by
  have own := isNumeral_toDigits exponent.natAbs
  have size : ofDigits 10 (Nat.toDigits 10 exponent.natAbs) = exponent.natAbs :=
    ofDigits_toDigits (by omega) (by omega) _
  by_cases short : (Nat.toDigits 10 exponent.natAbs).length < 2
  · refine ⟨'0' :: Nat.toDigits 10 exponent.natAbs, ?_, ⟨by simp, ?_⟩, ?_⟩
    · simp [Double.exponentText, short]
    · exact List.forall_mem_cons.2 ⟨rfl, own.2⟩
    · rw [← List.singleton_append, ofDigits_append, size]
      simp [show ofDigits 10 ['0'] = 0 from rfl]
  · exact ⟨Nat.toDigits 10 exponent.natAbs, by simp [Double.exponentText, short], own, size⟩

theorem exponent?_marked (exponent : Option Int) (delimited : isDelimited rest = true) :
    exponent? (marked exponent ++ rest) = (exponent, rest) := by
  cases exponent with
  | none =>
      cases rest with
      | nil => rfl
      | cons c more => rcases delimiter_cases delimited with rfl | rfl | rfl | rfl <;> rfl
  | some exponent =>
      obtain ⟨digits, text, numeral, size⟩ := exponentText_eq exponent
      have sign : exponentSign ((if exponent < 0 then '-' else '+') :: (digits ++ rest)) =
          (decide (exponent < 0), digits ++ rest) := by
        by_cases negative : exponent < 0 <;> simp [negative, exponentSign]
      have run : decimalRun (digits ++ rest) = (digits, rest) :=
        decimalRun_append numeral (endsDigits_of_delimited delimited)
      have value : (if decide (exponent < 0) = true then -(ofDigits 10 digits : Int)
          else ofDigits 10 digits) = exponent := by
        rw [size]
        by_cases negative : exponent < 0
        · rw [if_pos (decide_eq_true negative)]
          omega
        · rw [if_neg (by simpa using negative)]
          omega
      rw [marked, text, List.cons_append, List.cons_append, exponent?, if_pos (by rfl), sign]
      dsimp only
      rw [run]
      cases digits with
      | nil => exact absurd rfl numeral.1
      | cons c more =>
          dsimp only
          rw [value]

/-- A text that no digit, point or letter but the mark of an exponent starts. -/
def endsFraction : List Char → Bool
  | [] => true
  | c :: rest => c == 'e' || isDelimited (c :: rest)

theorem endsFraction_marked (exponent : Option Int) (delimited : isDelimited rest = true) :
    endsFraction (marked exponent ++ rest) = true := by
  cases exponent with
  | some exponent => rfl
  | none =>
      cases rest with
      | nil => rfl
      | cons c more => simp [marked, endsFraction, delimited]

theorem endsFraction_cases {c : Char} (ends : endsFraction (c :: rest) = true) :
    c = 'e' ∨ c = ',' ∨ c = ':' ∨ c = ']' ∨ c = '\x7d' := by
  simpa [endsFraction, isDelimited, or_assoc] using ends

theorem endsDigits_of_endsFraction (ends : endsFraction rest = true) : endsDigits rest = true := by
  cases rest with
  | nil => rfl
  | cons c more => rcases endsFraction_cases ends with rfl | rfl | rfl | rfl | rfl <;> rfl

theorem endsDigits_pointed (fraction : Option (List Char)) (ends : endsFraction rest = true) :
    endsDigits (pointed fraction ++ rest) = true := by
  cases fraction with
  | some fraction => rfl
  | none => exact endsDigits_of_endsFraction ends

theorem fraction?_pointed (fraction : Option (List Char))
    (numeral : ∀ digits, fraction = some digits → IsNumeral digits)
    (ends : endsFraction rest = true) : fraction? (pointed fraction ++ rest) = (fraction, rest) := by
  cases fraction with
  | some fraction =>
      rw [pointed, List.cons_append, fraction?, decimalRun_append (numeral fraction rfl)
        (endsDigits_of_endsFraction ends)]
  | none =>
      cases rest with
      | nil => rfl
      | cons c more => rcases endsFraction_cases ends with rfl | rfl | rfl | rfl | rfl <;> rfl

theorem imaginaryMark_of_delimited (delimited : isDelimited rest = true) :
    imaginaryMark rest = (false, rest) := by
  cases rest with
  | nil => rfl
  | cons c more => rcases delimiter_cases delimited with rfl | rfl | rfl | rfl <;> rfl

/-- A decimal number is a double if it has a fraction or an exponent. -/
theorem decimal?_append (whole : List Char) (fraction : Option (List Char)) (exponent : Option Int)
    (numeral : IsNumeral whole) (numeral' : ∀ digits, fraction = some digits → IsNumeral digits)
    (delimited : isDelimited rest = true) :
    decimal? (whole ++ (pointed fraction ++ (marked exponent ++ rest))) =
      if fraction.isSome || exponent.isSome then
        some (.double (doubleOf whole (fraction.getD []) (exponent.getD 0)), rest)
      else (integer? whole).map (·, rest) := by
  have ends : endsFraction (marked exponent ++ rest) = true := endsFraction_marked exponent delimited
  simp only [decimal?, decimalRun_append numeral (endsDigits_pointed fraction ends),
    fraction?_pointed fraction numeral' ends, exponent?_marked exponent delimited,
    imaginaryMark_of_delimited delimited, atWordEnd_of_delimited delimited, Bool.not_true,
    Bool.false_eq_true, if_false]

/-- A number that starts with a decimal numeral is a decimal number. -/
theorem number?_append (whole : List Char) (fraction : Option (List Char)) (exponent : Option Int)
    (numeral : IsNumeral whole) (delimited : isDelimited rest = true) :
    number? (whole ++ (pointed fraction ++ (marked exponent ++ rest))) =
      decimal? (whole ++ (pointed fraction ++ (marked exponent ++ rest))) := by
  generalize same : whole ++ (pointed fraction ++ (marked exponent ++ rest)) = text
  -- behind a leading zero comes a digit, the point or the end of the digits, so no letter of a base
  have second : ∀ c more, text = '0' :: c :: more →
      isDecimalDigit c = true ∨ c = '.' ∨ endsFraction (c :: more) = true := by
    rintro c more rfl
    cases whole with
    | nil => exact absurd rfl numeral.1
    | cons first others =>
        cases others with
        | cons next others =>
            cases same
            exact .inl (numeral.2 _ (by simp))
        | nil =>
            cases fraction with
            | some fraction =>
                cases same
                exact .inr (.inl rfl)
            | none =>
                have tail : marked exponent ++ rest = c :: more := (List.cons.inj same).2
                exact .inr (.inr (tail ▸ endsFraction_marked exponent delimited))
  rw [number?.eq_def]
  split
  · rename_i c more
    have apart : ['x', 'X', 'o', 'O', 'b', 'B'].all (fun d => !(c == d)) = true := by
      rcases second c more rfl with digit | rfl | ends
      · have none : ['x', 'X', 'o', 'O', 'b', 'B'].all (fun d => !isDecimalDigit d) = true := by
          decide
        rw [List.all_eq_true] at none ⊢
        intro d member
        rw [Bool.not_eq_true', beq_eq_false_iff_ne]
        rintro rfl
        have other := none c member
        rw [digit] at other
        cases other
      · decide
      · rcases endsFraction_cases ends with rfl | rfl | rfl | rfl | rfl <;> decide
    simp only [List.all_cons, List.all_nil, Bool.and_eq_true, Bool.not_eq_true', and_true] at apart
    simp [apart]
  · rfl

/-- An integer keeps to the limit of digits when it can be written. -/
theorem natAbs_lt_of_withinDigits {value : Int} (fits : withinDigits value = true) :
    value.natAbs < 10 ^ digitLimit := by
  unfold withinDigits at fits
  generalize digitLimit = limit at fits ⊢
  exact of_decide_eq_true fits

theorem integer?_toDigits {n : Nat} (fits : n < 10 ^ digitLimit) :
    integer? (Nat.toDigits 10 n) = some (.int n) := by
  by_cases positive : 0 < n
  · have front : (Nat.toDigits 10 n).head? ≠ some '0' := head?_toDigits (by omega) positive
    have some_ : (Nat.toDigits 10 n).all (· == '0') = false := by
      cases digits : Nat.toDigits 10 n with
      | nil => exact absurd digits Nat.toDigits_ne_nil
      | cons c more =>
          have apart : c ≠ '0' := fun same => front (by rw [digits, same]; rfl)
          simp [apart]
    have short : (Nat.toDigits 10 n).length ≤ digitLimit :=
      (Nat.length_toDigits_le_iff (by omega) (by decide)).2 fits
    simp only [integer?, some_, beq_eq_false_iff_ne.2 front, Bool.false_eq_true, if_false,
      Bool.false_or, decide_eq_true_eq, Nat.not_lt.2 short]
    rw [ofDigits_toDigits (by omega) (by omega)]
  · obtain rfl : n = 0 := by omega
    rfl

/-! ## Numbers as tokens -/

theorem mark?_of_digit {c : Char} (digit : isDecimalDigit c = true) : mark? c = none := by
  unfold mark?
  split <;> first | rfl | cases digit

theorem next?_of_numeral (numeral : IsNumeral whole) :
    next? (whole ++ rest) =
      (number? (whole ++ rest)).map fun (value, after) => (.number value, after) := by
  cases whole with
  | nil => exact absurd rfl numeral.1
  | cons c more =>
      have digit : isDecimalDigit c = true := numeral.2 c List.mem_cons_self
      have apart : (c == '.') = false := by
        rw [beq_eq_false_iff_ne]
        rintro rfl
        cases digit
      rw [List.cons_append, next?, mark?_of_digit digit]
      simp only [apart, digit, Bool.false_eq_true, if_false, if_true]

/-- The digits of a natural number are read as that number. -/
theorem next?_natural {n : Nat} (fits : n < 10 ^ digitLimit) (delimited : isDelimited rest = true) :
    next? (Nat.toDigits 10 n ++ rest) = some (.number (.int n), rest) := by
  have numeral := isNumeral_toDigits n
  have read : number? (Nat.toDigits 10 n ++ rest) = some (.int n, rest) := by
    have whole := number?_append (Nat.toDigits 10 n) none none numeral delimited
    rw [decimal?_append _ none none numeral (by simp) delimited, integer?_toDigits fits] at whole
    simpa [pointed, marked] using whole
  rw [next?_of_numeral numeral, read]
  rfl

/-- A decimal number with a fraction or an exponent. -/
structure DoubleText where
  whole : List Char
  fraction : Option (List Char)
  exponent : Option Int
  numeral : IsNumeral whole
  numeral' : ∀ digits, fraction = some digits → IsNumeral digits
  double : (fraction.isSome || exponent.isSome) = true

namespace DoubleText

/-- The characters of the number. -/
def chars (text : DoubleText) : List Char :=
  text.whole ++ (pointed text.fraction ++ marked text.exponent)

/-- The decimal that the number denotes. -/
def decimal (text : DoubleText) : Double.Decimal :=
  ⟨ofDigits 10 (text.whole ++ text.fraction.getD []),
    text.exponent.getD 0 - (text.fraction.getD []).length⟩

/-- The double that the number denotes. -/
def value (text : DoubleText) : Double := .ofDecimal false text.decimal.digits text.decimal.shift

end DoubleText

/-- Digits with a fraction or an exponent are read as a double. -/
theorem next?_chars (text : DoubleText) (delimited : isDelimited rest = true) :
    next? (text.chars ++ rest) = some (.number (.double text.value), rest) := by
  rw [DoubleText.chars, List.append_assoc, List.append_assoc, next?_of_numeral text.numeral,
    number?_append _ _ _ text.numeral delimited,
    decimal?_append _ _ _ text.numeral text.numeral' delimited, if_pos text.double]
  rfl

end TypedContract.Literal.Token
