/-
# TypedContract.Proofs.Double.Nearest -- rounding depends on the ratio alone

`nearestIndex` rounds a numerator over a denominator; `nearest` is what it does to the
ratio itself (`nearestIndex_eq`), so decimals of one value round to one double.  A ratio
that is nearer to a double than `2^-54` of it rounds to that double (`nearest_of_close`):
half the distance to the next double is more than that on either side.
-/
import Mathlib.Algebra.Order.Floor.Semifield
import Mathlib.Data.Int.Log
import Mathlib.Data.Rat.Floor
import Mathlib.Tactic.Linarith
import Mathlib.Tactic.Positivity
import TypedContract.Double.Basic

namespace TypedContract.Double

set_option autoImplicit false

variable {num den index : Nat} {x : ℚ} {e : Int}

/-! ## Powers as ratios -/

theorem zpow_eq_div (b : ℚ) (e : Int) : b ^ e = b ^ e.toNat / b ^ (-e).toNat := by
  rcases le_total 0 e with up | down
  · rw [show (-e).toNat = 0 by omega, pow_zero, div_one, ← zpow_natCast, Int.toNat_of_nonneg up]
  · rw [show e.toNat = 0 by omega, pow_zero, ← zpow_natCast, Int.toNat_of_nonneg (by omega),
      zpow_neg, one_div, inv_inv]

/-- A power is compared with a ratio in natural numbers. -/
theorem mul_pow_le_iff {b : Nat} (large : 0 < b) (positive : 0 < den) :
    den * b ^ e.toNat ≤ num * b ^ (-e).toNat ↔ (b : ℚ) ^ e ≤ num / den := by
  rw [zpow_eq_div, div_le_div_iff₀ (by positivity) (by positivity), mul_comm den]
  norm_cast

/-! ## Logarithms -/

theorem log_eq_iff (positive : 0 < x) :
    Int.log 2 x = e ↔ (2 : ℚ) ^ e ≤ x ∧ x < 2 ^ (e + 1) := by
  have low := Int.zpow_le_iff_le_log (b := 2) (x := e) (by omega) positive
  have high := Int.lt_zpow_iff_log_lt (b := 2) (x := e + 1) (by omega) positive
  push_cast at low high
  rw [low, high]
  omega

theorem log_mul_zpow (positive : 0 < x) : Int.log 2 (x * 2 ^ e) = Int.log 2 x + e := by
  have unit : (0 : ℚ) < 2 ^ e := zpow_pos (by norm_num) e
  obtain ⟨low, high⟩ := (log_eq_iff positive).1 rfl
  rw [log_eq_iff (mul_pos positive unit), zpow_add₀ (by norm_num)]
  refine ⟨mul_le_mul_of_nonneg_right low unit.le, ?_⟩
  rw [add_right_comm, zpow_add₀ (by norm_num)]
  exact mul_lt_mul_of_pos_right high unit

theorem floorLog2_eq (numPositive : 0 < num) (denPositive : 0 < den) :
    floorLog2 num den = Int.log 2 (num / den : ℚ) := by
  have positive : (0 : ℚ) < num / den := by positivity
  let guess : Int := (Nat.log2 num : Int) - Nat.log2 den
  have numLow : (2 : ℚ) ^ num.log2 ≤ num := by exact_mod_cast Nat.log2_self_le numPositive.ne'
  have numHigh : (num : ℚ) < 2 ^ (num.log2 + 1) := by exact_mod_cast Nat.lt_log2_self
  have denLow : (2 : ℚ) ^ den.log2 ≤ den := by exact_mod_cast Nat.log2_self_le denPositive.ne'
  have denHigh : (den : ℚ) < 2 ^ (den.log2 + 1) := by exact_mod_cast Nat.lt_log2_self
  have high : (num / den : ℚ) < 2 ^ (guess + 1) := by
    rw [show guess + 1 = ((num.log2 + 1 : Nat) : Int) - (den.log2 : Nat) by omega,
      zpow_sub₀ (by norm_num), zpow_natCast, zpow_natCast]
    exact div_lt_div₀ numHigh denLow (by positivity) (by positivity)
  have low : (2 : ℚ) ^ (guess - 1) ≤ num / den := by
    rw [show guess - 1 = (num.log2 : Int) - ((den.log2 + 1 : Nat) : Int) by omega,
      zpow_sub₀ (by norm_num), zpow_natCast, zpow_natCast]
    exact div_le_div₀ (by positivity) numLow (by positivity) denHigh.le
  have split : den * 2 ^ guess.toNat ≤ num * 2 ^ (-guess).toNat ↔ (2 : ℚ) ^ guess ≤ num / den := by
    exact_mod_cast mul_pow_le_iff (b := 2) (e := guess) (by omega) denPositive
  symm
  rw [log_eq_iff positive]
  show (2 : ℚ) ^ (if num * 2 ^ (-guess).toNat ≥ den * 2 ^ guess.toNat then guess else guess - 1) ≤ _ ∧
    _ < (2 : ℚ) ^ ((if num * 2 ^ (-guess).toNat ≥ den * 2 ^ guess.toNat then guess else guess - 1) + 1)
  by_cases exact : den * 2 ^ guess.toNat ≤ num * 2 ^ (-guess).toNat
  · rw [if_pos exact]
    exact ⟨split.1 exact, high⟩
  · rw [if_neg exact, sub_add_cancel]
    exact ⟨low, not_le.1 (mt split.2 exact)⟩

/-! ## Rounding to integers -/

/-- The nearest integer to a ratio, a half to the even neighbour. -/
def roundEven (x : ℚ) : Nat :=
  if 1 / 2 < x - ⌊x⌋₊ ∨ x - ⌊x⌋₊ = 1 / 2 ∧ ⌊x⌋₊ % 2 = 1 then ⌊x⌋₊ + 1 else ⌊x⌋₊

theorem roundHalfEven_eq (positive : 0 < den) :
    roundHalfEven num den = roundEven (num / den : ℚ) := by
  have floor : ⌊(num / den : ℚ)⌋₊ = num / den := Nat.floor_div_eq_div num den
  have rest : (num / den : ℚ) - (num / den : Nat) = (num % den : Nat) / den := by
    have whole : (num : ℚ) = den * (num / den : Nat) + (num % den : Nat) := by
      exact_mod_cast (Nat.div_add_mod num den).symm
    rw [eq_div_iff (by positivity), sub_mul, div_mul_cancel₀ _ (by positivity)]
    linarith
  have above : (1 / 2 : ℚ) < (num % den : Nat) / den ↔ 2 * (num % den) > den := by
    rw [div_lt_div_iff₀ (by norm_num) (by positivity)]
    norm_cast
    omega
  have half : ((num % den : Nat) / den : ℚ) = 1 / 2 ↔ 2 * (num % den) = den := by
    rw [div_eq_div_iff (by positivity) (by norm_num)]
    norm_cast
    omega
  unfold roundHalfEven roundEven
  simp only [floor, rest, above, half, Bool.or_eq_true, Bool.and_eq_true, decide_eq_true_eq,
    beq_iff_eq]

theorem roundEven_of_close {m : Nat} (positive : 0 ≤ x) (low : m - 1 / 2 < x)
    (high : x < m + 1 / 2) : roundEven x = m := by
  unfold roundEven
  by_cases below : x < m
  · obtain ⟨n, rfl⟩ : ∃ n, m = n + 1 := by
      refine ⟨m - 1, (Nat.sub_add_cancel ?_).symm⟩
      have above : (0 : ℚ) < m := lt_of_le_of_lt positive below
      exact_mod_cast above
    push_cast at low below
    have floor : ⌊x⌋₊ = n := (Nat.floor_eq_iff positive).2 ⟨by linarith, below⟩
    rw [floor, if_pos (.inl (by linarith))]
  · have floor : ⌊x⌋₊ = m := (Nat.floor_eq_iff positive).2 ⟨not_lt.1 below, by linarith⟩
    rw [floor, if_neg]
    rintro (above | ⟨half, -⟩) <;> linarith

theorem le_roundEven {m : Nat} (low : (m : ℚ) ≤ x) : m ≤ roundEven x := by
  have floor : m ≤ ⌊x⌋₊ := Nat.le_floor low
  unfold roundEven
  split <;> omega

/-! ## Rounding to doubles -/

/-- The index of the double nearest to a ratio. -/
def nearest (x : ℚ) : Nat :=
  let e := max (-1074) (Int.log 2 x - 52)
  (e + 1074).toNat * block + roundEven (x / 2 ^ e)

theorem nearestIndex_eq (numPositive : 0 < num) (denPositive : 0 < den) :
    nearestIndex num den = nearest (num / den : ℚ) := by
  unfold nearestIndex nearest
  rw [floorLog2_eq numPositive denPositive]
  generalize max (-1074) (Int.log 2 (num / den : ℚ) - 52) = e
  have scaled : ((num * Nat.pow 2 (-e).toNat : Nat) / (den * Nat.pow 2 e.toNat : Nat) : ℚ) =
      num / den / 2 ^ e := by
    rw [zpow_eq_div, Nat.pow_eq, Nat.pow_eq]
    push_cast
    field_simp
  have positive : 0 < den * Nat.pow 2 e.toNat := Nat.mul_pos denPositive (Nat.pow_pos (by omega))
  dsimp only
  rw [roundHalfEven_eq positive, scaled]

/-- The value at an index. -/
def value (index : Nat) : ℚ := significand index * 2 ^ exponent index

theorem numerator_div_denominator : (numerator index / denominator index : ℚ) = value index := by
  unfold numerator denominator value
  rw [zpow_eq_div, Nat.pow_eq, Nat.pow_eq]
  push_cast
  field_simp

theorem block_eq : block = 2 ^ 52 := rfl

/-- An index is made of the significand and the exponent of its value. -/
theorem index_eq (index : Nat) : index = (exponent index + 1074).toNat * block + significand index ∧
    significand index < 2 ^ 53 ∧ -1074 ≤ exponent index ∧
    (exponent index = -1074 ∨ 2 ^ 52 ≤ significand index) := by
  have size := block_eq
  unfold exponent significand
  by_cases small : index < block
  · simp only [small, if_true]
    exact ⟨by simp, by omega, le_refl _, .inl trivial⟩
  · simp only [small, if_false]
    have blocks : 0 < index / block := Nat.div_pos (by omega) (by omega)
    have whole := Nat.div_add_mod index block
    have rest := Nat.mod_lt index (show 0 < block by omega)
    refine ⟨?_, by omega, by omega, .inr (by omega)⟩
    rw [show ((index / block : Nat) - 1075 + 1074 : Int).toNat = index / block - 1 by omega,
      Nat.sub_mul, one_mul, mul_comm]
    have least : block ≤ block * (index / block) := Nat.le_mul_of_pos_right _ blocks
    omega

/-- Just below a power of two, where the doubles stand half as far apart, a ratio rounds
to the power. -/
theorem nearest_below_power {y : ℚ} (normal : -1074 < e) (positive : 0 < y) (below : y < 2 ^ 52)
    (near : |y - 2 ^ 52| * 2 ^ 54 < 2 ^ 52) :
    nearest (y * 2 ^ e) = (e + 1074).toNat * block + 2 ^ 52 := by
  have close : (2 : ℚ) ^ 52 - 1 / 4 < y := by
    have low := (abs_lt.1 (lt_div_iff₀ (by norm_num) |>.2 near)).1
    norm_num at low ⊢
    linarith
  have log : Int.log 2 y = 51 := by
    rw [log_eq_iff positive]
    norm_num at close below ⊢
    constructor <;> linarith
  have twice : y * 2 ^ e / 2 ^ (e - 1) = 2 * y := by
    rw [zpow_sub₀ (by norm_num)]
    field_simp
  have round : roundEven (2 * y) = 2 ^ 53 := by
    refine roundEven_of_close (by linarith) ?_ ?_ <;> norm_num at close below ⊢ <;> linarith
  unfold nearest
  rw [log_mul_zpow positive, log, show max (-1074) (51 + e - 52) = e - 1 by omega]
  dsimp only
  rw [twice, round, show (e + 1074).toNat = (e - 1 + 1074).toNat + 1 by omega, Nat.add_mul,
    block_eq]
  omega

/-- A ratio nearer to a double than `2^-54` of it rounds to the double. -/
theorem nearest_of_close (ratio : 0 < x) (close : |x - value index| * 2 ^ 54 < value index) :
    nearest x = index := by
  obtain ⟨same, small, least, shape⟩ := index_eq index
  unfold value at close
  generalize significand index = m at *
  generalize exponent index = e at *
  have unit : (0 : ℚ) < 2 ^ e := zpow_pos (by norm_num) e
  -- measured in units of the double's last place, the ratio is less than a half away from it
  obtain ⟨y, rfl⟩ : ∃ y, x = y * 2 ^ e := ⟨x / 2 ^ e, by field_simp⟩
  have near : |y - m| * 2 ^ 54 < m := by
    rw [← sub_mul, abs_mul, abs_of_pos unit] at close
    nlinarith
  have bound : (m : ℚ) < 2 ^ 53 := by exact_mod_cast small
  have half : |y - m| < 1 / 2 := by nlinarith
  rw [abs_lt] at half
  have positive : 0 < y := (mul_pos_iff_of_pos_right unit).1 ratio
  have round : roundEven y = m :=
    roundEven_of_close positive.le (by linarith [half.1]) (by linarith [half.2])
  have high : Int.log 2 y < 53 := by
    have whole : (m : ℚ) + 1 ≤ 2 ^ 53 := by exact_mod_cast small
    rw [← Int.lt_zpow_iff_log_lt (by omega) positive]
    norm_num at whole ⊢
    linarith
  by_cases inside : max (-1074) (Int.log 2 y + e - 52) = e
  · unfold nearest
    rw [log_mul_zpow positive]
    simp only [inside]
    rw [mul_div_assoc, div_self unit.ne', mul_one, round]
    exact same.symm
  · have normal : -1074 < e ∧ Int.log 2 y < 52 := by omega
    have below : y < 2 ^ 52 := by
      have power := (Int.lt_zpow_iff_log_lt (b := 2) (x := 52) (by omega) positive).2 normal.2
      exact_mod_cast power
    have power : m = 2 ^ 52 := by
      have above : (m : ℚ) < 2 ^ 52 + 1 := by linarith [half.1]
      have above' : m < 2 ^ 52 + 1 := by exact_mod_cast above
      omega
    subst power
    rw [same]
    exact nearest_below_power normal.1 positive below (by exact_mod_cast near)

/-! ## Ratios that are no double -/

theorem nearest_of_tiny (positive : 0 < x) (tiny : x < 2 ^ (-1076 : Int)) : nearest x = 0 := by
  have log : Int.log 2 x < -1076 := by
    rw [← Int.lt_zpow_iff_log_lt (by omega) positive]
    exact_mod_cast tiny
  have small : x / 2 ^ (-1074 : Int) < 1 / 4 := by
    rw [div_lt_iff₀ (zpow_pos (by norm_num) _)]
    calc x < 2 ^ (-1076 : Int) := tiny
      _ = 1 / 4 * 2 ^ (-1074 : Int) := by
        rw [show (-1076 : Int) = -2 + -1074 by omega, zpow_add₀ (by norm_num)]
        norm_num
  have ratio : 0 ≤ x / 2 ^ (-1074 : Int) := (div_pos positive (zpow_pos (by norm_num) _)).le
  have round : roundEven (x / 2 ^ (-1074 : Int)) = 0 :=
    roundEven_of_close ratio (by rw [Nat.cast_zero]; linarith) (by rw [Nat.cast_zero]; linarith)
  unfold nearest
  rw [show max (-1074) (Int.log 2 x - 52) = -1074 by omega]
  dsimp only
  rw [round, show (-1074 + 1074 : Int).toNat = 0 by omega, zero_mul]

theorem le_nearest_of_huge (huge : 2 ^ (1024 : Int) ≤ x) : indexBound ≤ nearest x := by
  have positive : 0 < x := lt_of_lt_of_le (zpow_pos (by norm_num) _) huge
  have log : 1024 ≤ Int.log 2 x := by
    rw [← Int.zpow_le_iff_le_log (by omega) positive]
    exact_mod_cast huge
  have round : 2 ^ 52 ≤ roundEven (x / 2 ^ (Int.log 2 x - 52)) := by
    refine le_roundEven ?_
    rw [le_div_iff₀ (zpow_pos (by norm_num) _)]
    calc ((2 ^ 52 : Nat) : ℚ) * 2 ^ (Int.log 2 x - 52) = 2 ^ Int.log 2 x := by
          rw [Nat.cast_pow, Nat.cast_ofNat, ← zpow_natCast, ← zpow_add₀ (by norm_num)]
          congr 1
          omega
      _ ≤ x := ((log_eq_iff positive).1 rfl).1
  unfold nearest
  rw [show max (-1074) (Int.log 2 x - 52) = Int.log 2 x - 52 by omega]
  have blocks : 2046 * block ≤ (Int.log 2 x - 52 + 1074).toNat * block :=
    Nat.mul_le_mul_right _ (by omega)
  have size := block_eq
  have bound : indexBound = 2047 * block := rfl
  dsimp only
  omega

end TypedContract.Double
