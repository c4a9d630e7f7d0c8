/-
# TypedContract.Proofs.Literal.Double -- written doubles are read back

The layout of a double moves the point and adds zeros, and the value stays that of its
shortest decimal; so what is read is the double (`exists_doubleText`).
-/
import TypedContract.Proofs.Double.Shortest
import TypedContract.Proofs.Literal.Number

namespace TypedContract.Literal.Token

set_option autoImplicit false

open Text Double

theorem IsNumeral.append {digits more : List Char} (numeral : IsNumeral digits)
    (each : ∀ c ∈ more, isDecimalDigit c = true) : IsNumeral (digits ++ more) :=
  ⟨by simp [numeral.1], fun c member => (List.mem_append.1 member).elim (numeral.2 c) (each c)⟩

theorem isDecimalDigit_of_mem_replicate {count : Nat} :
    ∀ c ∈ List.replicate count '0', isDecimalDigit c = true := by
  intro c member
  obtain rfl := List.eq_of_mem_replicate member
  rfl

theorem isNumeral_take {digits : List Char} {count : Nat} (numeral : IsNumeral digits)
    (positive : 0 < count) : IsNumeral (digits.take count) :=
  ⟨by simp [numeral.1]; omega, fun c member => numeral.2 c (List.mem_of_mem_take member)⟩

theorem isNumeral_drop {digits : List Char} {count : Nat} (numeral : IsNumeral digits)
    (below : count < digits.length) : IsNumeral (digits.drop count) :=
  ⟨by simp; omega, fun c member => numeral.2 c (List.mem_of_mem_drop member)⟩

theorem isNumeral_zero : IsNumeral ['0'] := ⟨by simp, by simp; rfl⟩

/-! ## The four layouts -/

section Layouts

variable {digits : List Char} (numeral : IsNumeral digits)
include numeral

/-- Zeros stand between the point and the digits. -/
theorem exists_text_behind (zeros : Nat) : ∃ text : DoubleText,
    text.chars = '0' :: '.' :: List.replicate zeros '0' ++ digits ∧
      text.decimal = ⟨ofDigits 10 digits, -(zeros + digits.length : Nat)⟩ := by
  have fraction : IsNumeral (List.replicate zeros '0' ++ digits) :=
    ⟨by simp [numeral.1], fun c member =>
      (List.mem_append.1 member).elim (isDecimalDigit_of_mem_replicate c) (numeral.2 c)⟩
  refine ⟨⟨['0'], some (List.replicate zeros '0' ++ digits), none, isNumeral_zero,
    by simpa using fraction, rfl⟩, by simp [DoubleText.chars, pointed, marked], ?_⟩
  have zero : ofDigits 10 ['0'] = 0 := rfl
  simp only [DoubleText.decimal, Option.getD_some, Option.getD_none, Decimal.mk.injEq,
    List.length_append, List.length_replicate]
  refine ⟨?_, by omega⟩
  rw [ofDigits_append, ofDigits_append, ofDigits_replicate_zero, zero]
  omega

/-- Zeros stand between the digits and the point. -/
theorem exists_text_before (zeros : Nat) : ∃ text : DoubleText,
    text.chars = digits ++ List.replicate zeros '0' ++ ['.', '0'] ∧
      text.decimal = ⟨ofDigits 10 digits * 10 ^ (zeros + 1), -1⟩ := by
  refine ⟨⟨digits ++ List.replicate zeros '0', some ['0'], none,
    numeral.append isDecimalDigit_of_mem_replicate, by simpa using isNumeral_zero, rfl⟩,
    by simp [DoubleText.chars, pointed, marked], ?_⟩
  have zero : ofDigits 10 ['0'] = 0 := rfl
  simp only [DoubleText.decimal, Option.getD_some, Option.getD_none, List.length_singleton,
    Decimal.mk.injEq]
  refine ⟨?_, rfl⟩
  rw [ofDigits_append, ofDigits_append, ofDigits_replicate_zero, zero, pow_succ]
  simp only [List.length_replicate, List.length_singleton, pow_one, add_zero, mul_assoc]

/-- The point stands between the digits. -/
theorem exists_text_between (point : Nat) (front : 0 < point) (inside : point < digits.length) :
    ∃ text : DoubleText, text.chars = digits.take point ++ '.' :: digits.drop point ∧
      text.decimal = ⟨ofDigits 10 digits, -(digits.length - point : Nat)⟩ := by
  refine ⟨⟨digits.take point, some (digits.drop point), none, isNumeral_take numeral front,
    by simpa using isNumeral_drop numeral inside, rfl⟩,
    by simp [DoubleText.chars, pointed, marked], ?_⟩
  simp only [DoubleText.decimal, Option.getD_some, Option.getD_none, Decimal.mk.injEq,
    List.take_append_drop, List.length_drop]
  exact ⟨trivial, by omega⟩

/-- One digit stands before the point, and an exponent behind the others. -/
theorem exists_text_scientific (exponent : Int) : ∃ text : DoubleText,
    text.chars = digits.take 1 ++ (if digits.length > 1 then '.' :: digits.drop 1 else []) ++
        'e' :: exponentText exponent ∧
      text.decimal = ⟨ofDigits 10 digits, exponent - (digits.length - 1 : Nat)⟩ := by
  have first := isNumeral_take numeral (show 0 < 1 by omega)
  by_cases long : digits.length > 1
  · refine ⟨⟨digits.take 1, some (digits.drop 1), some exponent, first,
      by simpa using isNumeral_drop numeral long, rfl⟩, ?_, ?_⟩
    · simp only [DoubleText.chars, pointed, marked, if_pos long, List.append_assoc]
    · simp only [DoubleText.decimal, Option.getD_some, List.take_append_drop, List.length_drop]
  · have only : digits.take 1 = digits := List.take_of_length_le (by omega)
    refine ⟨⟨digits.take 1, none, some exponent, first, by simp, rfl⟩, ?_, ?_⟩
    · simp only [DoubleText.chars, pointed, marked, if_neg long, List.append_assoc, List.nil_append]
    · simp only [DoubleText.decimal, Option.getD_some, Option.getD_none, List.append_nil, only,
        List.length_nil, Decimal.mk.injEq]
      exact ⟨trivial, by omega⟩

end Layouts

/-- A positive decimal is written as a decimal number of its value. -/
theorem Decimal.exists_text {d : Decimal} (positive : 0 < d.digits) :
    ∃ text : DoubleText, d.text .plain = text.chars ∧ 0 < text.decimal.digits ∧
      text.decimal.value = d.value := by
  obtain ⟨n, shift⟩ := d
  have numeral := isNumeral_toDigits n
  have denotes : ofDigits 10 (Nat.toDigits 10 n) = n := ofDigits_toDigits (by omega) (by omega) _
  unfold Decimal.text
  dsimp only at positive ⊢
  generalize Nat.toDigits 10 n = digits at numeral denotes ⊢
  have some_ : 0 < digits.length := List.length_pos_iff.2 numeral.1
  -- only zeros before the point change the digits; elsewhere the decimal itself is written
  have same : ∀ text : DoubleText, text.decimal = ⟨n, shift⟩ → 0 < text.decimal.digits ∧
      text.decimal.value = Decimal.value ⟨n, shift⟩ := by
    intro text equal
    rw [equal]
    exact ⟨positive, rfl⟩
  split
  · split
    · rename_i small
      obtain ⟨text, written, decimal⟩ :=
        exists_text_behind numeral (-((digits.length : Int) + shift)).toNat
      refine ⟨text, written.symm, same text ?_⟩
      rw [decimal, denotes, Decimal.mk.injEq]
      exact ⟨rfl, by omega⟩
    · rename_i large
      split
      · rename_i whole
        obtain ⟨text, written, decimal⟩ :=
          exists_text_before numeral (((digits.length : Int) + shift).toNat - digits.length)
        refine ⟨text, written.symm, ?_⟩
        rw [decimal, denotes,
          show ((digits.length : Int) + shift).toNat - digits.length = shift.toNat by omega]
        refine ⟨Nat.mul_pos positive (Nat.pow_pos (by omega)), ?_⟩
        simp only [Decimal.value]
        push_cast
        rw [← zpow_natCast, mul_assoc, ← zpow_add₀ (by norm_num)]
        congr 2
        push_cast
        omega
      · rename_i inside
        obtain ⟨text, written, decimal⟩ := exists_text_between numeral
          ((digits.length : Int) + shift).toNat (by omega) (by omega)
        refine ⟨text, written.symm, same text ?_⟩
        rw [decimal, denotes, Decimal.mk.injEq]
        exact ⟨rfl, by omega⟩
  · obtain ⟨text, written, decimal⟩ :=
      exists_text_scientific numeral (digits.length + shift - 1)
    refine ⟨text, written.symm, same text ?_⟩
    rw [decimal, denotes, Decimal.mk.injEq]
    exact ⟨rfl, by omega⟩

/-- A finite double is written as its sign and a decimal number that denotes the rest. -/
theorem exists_doubleText (negative : Bool) (index : Fin indexBound) : ∃ text : DoubleText,
    (Double.finite negative index).textWith .plain = (if negative then ['-'] else []) ++ text.chars ∧
      text.value = .finite false index := by
  obtain ⟨index, finite⟩ := index
  unfold textWith
  dsimp only
  by_cases zero : index = 0
  · subst zero
    exact ⟨⟨['0'], some ['0'], none, isNumeral_zero, by simpa using isNumeral_zero, rfl⟩, rfl, rfl⟩
  · have hits := hits_shortest (Nat.pos_of_ne_zero zero) finite
    obtain ⟨text, written, positive, value⟩ := Decimal.exists_text hits.positive
    have apart : (index == 0) = false := by simpa using zero
    refine ⟨text, by simp only [apart, Bool.false_eq_true, if_false, written], ?_⟩
    exact ofDecimal_eq (Nat.pos_of_ne_zero zero) finite ⟨positive, value ▸ hits.nearest⟩

end TypedContract.Literal.Token
