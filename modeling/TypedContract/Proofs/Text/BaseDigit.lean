/-
# TypedContract.Proofs.Text.BaseDigit -- the digits of a number denote it

`Nat.toDigits` writes a number in digits of a base up to 16 and `ofDigits` reads them
back, also with zeros in front of them.
-/
import Mathlib.Tactic.Ring
import TypedContract.Text.BaseDigit

namespace TypedContract.Text

set_option autoImplicit false

variable {base : Nat}

/-! ## Digits -/

theorem digitValue?_digitChar {n : Nat} (small : base ≤ 16) (below : n < base) :
    digitValue? base n.digitChar = some n := by
  have each : ∀ n < 16, ∀ base ≤ 16, n < base → digitValue? base n.digitChar = some n := by
    decide
  exact each n (by omega) base small below

theorem isDigitOf_digitChar {n : Nat} (small : base ≤ 16) (below : n < base) :
    isDigitOf base n.digitChar = true := by
  rw [isDigitOf, digitValue?_digitChar small below]
  rfl

theorem isDigitOf_of_mem_toDigits (large : 1 < base) (small : base ≤ 16) (n : Nat) :
    ∀ c ∈ Nat.toDigits base n, isDigitOf base c = true := by
  induction n using Nat.strongRecOn with
  | ind n ih =>
      intro c member
      rw [Nat.toDigits_eq_if large] at member
      split at member
      · rename_i below
        obtain rfl := List.mem_singleton.1 member
        exact isDigitOf_digitChar small below
      · rcases List.mem_append.1 member with front | last
        · exact ih (n / base) (Nat.div_lt_self (by omega) large) c front
        · obtain rfl := List.mem_singleton.1 last
          exact isDigitOf_digitChar small (Nat.mod_lt n (by omega))

theorem isDigitOf_ten (c : Char) : isDigitOf 10 c = isDecimalDigit c := by
  have letter : ∀ {n : Nat}, (Option.filter (· < 10) (some (n + 10))).isSome = false := by
    intro n
    rw [Option.filter_some, if_neg (by simp)]
    rfl
  unfold isDigitOf digitValue?
  dsimp only
  split
  · rename_i digit
    have below : c.toNat - '0'.toNat < 10 := by
      simp only [isDecimalDigit, Bool.and_eq_true, decide_eq_true_eq] at digit
      have high : c.toNat ≤ '9'.toNat := digit.2
      have nine : '9'.toNat = 57 := rfl
      have zero : '0'.toNat = 48 := rfl
      omega
    rw [Option.filter_some, if_pos (by simpa using below), digit]
    rfl
  · rename_i digit
    rw [Bool.not_eq_true] at digit
    rw [digit]
    split
    · exact letter
    · split
      · exact letter
      · rfl

/-- A positive number is written without a zero in front. -/
theorem head?_toDigits (large : 1 < base) {n : Nat} (positive : 0 < n) :
    (Nat.toDigits base n).head? ≠ some '0' := by
  induction n using Nat.strongRecOn with
  | ind n ih =>
      rw [Nat.toDigits_eq_if large]
      split
      · simp only [List.head?_cons, ne_eq, Option.some.injEq, Nat.digitChar_eq_zero]
        omega
      · rename_i above
        have front := ih (n / base) (Nat.div_lt_self positive large)
          (Nat.div_pos (by omega) (by omega))
        cases digits : Nat.toDigits base (n / base) with
        | nil => exact absurd digits Nat.toDigits_ne_nil
        | cons c rest => simpa [digits] using front

/-! ## The number that digits denote -/

theorem foldl_digits (digits : List Char) (n : Nat) :
    digits.foldl (fun n c => n * base + (digitValue? base c).getD 0) n =
      n * base ^ digits.length + ofDigits base digits := by
  unfold ofDigits
  induction digits generalizing n with
  | nil => simp
  | cons c rest ih =>
      rw [List.foldl_cons, List.foldl_cons, ih, ih (0 * base + _), List.length_cons, Nat.pow_succ]
      ring

theorem ofDigits_append (digits more : List Char) : ofDigits base (digits ++ more) =
    ofDigits base digits * base ^ more.length + ofDigits base more := by
  rw [ofDigits, List.foldl_append, foldl_digits more]
  rfl

theorem ofDigits_replicate_zero (count : Nat) : ofDigits base (List.replicate count '0') = 0 := by
  have zero : (digitValue? base '0').getD 0 = 0 := by
    show (Option.filter (· < base) (some 0)).getD 0 = 0
    rw [Option.filter_some]
    split <;> rfl
  induction count with
  | zero => rfl
  | succ count ih =>
      rw [List.replicate_succ, ofDigits, List.foldl_cons, foldl_digits, ih, zero]
      simp

theorem ofDigits_toDigits (large : 1 < base) (small : base ≤ 16) (n : Nat) :
    ofDigits base (Nat.toDigits base n) = n := by
  induction n using Nat.strongRecOn with
  | ind n ih =>
      have single : ∀ m < base, ofDigits base [m.digitChar] = m := by
        intro m below
        simp [ofDigits, digitValue?_digitChar small below]
      rw [Nat.toDigits_eq_if large]
      split
      · rename_i below
        exact single n below
      · rw [ofDigits_append, ih (n / base) (Nat.div_lt_self (by omega) large),
          single _ (Nat.mod_lt n (by omega))]
        simp [Nat.div_add_mod']

end TypedContract.Text
