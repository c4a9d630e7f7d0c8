/-
# TypedContract.Proofs.Double.Shortest -- decimals that read back

On the grid of 17 digits the nearer neighbour of a double is nearer than `2^-54` of it, so
some grid has a neighbour that reads back and `shortest` finds one (`hits_shortest`).
What reads back as a double does so however its value is written (`ofDecimal_eq`).
-/
import TypedContract.Double.Shortest
import TypedContract.Proofs.Double.Nearest

namespace TypedContract.Double

set_option autoImplicit false

variable {index : Nat} {d : Decimal}

/-! ## Values of decimals -/

/-- The value of a decimal. -/
def Decimal.value (d : Decimal) : ℚ := d.digits * 10 ^ d.shift

theorem Decimal.value_eq : (d.numerator / d.denominator : ℚ) = d.value := by
  unfold Decimal.numerator Decimal.denominator Decimal.value
  rw [zpow_eq_div, Nat.pow_eq, Nat.pow_eq]
  push_cast
  field_simp

/-- The decimal is positive and rounds to the double. -/
structure Decimal.Hits (d : Decimal) (index : Nat) : Prop where
  positive : 0 < d.digits
  nearest : nearest d.value = index

theorem readsBack_iff (positive : 0 < d.digits) :
    readsBack index d = true ↔ nearest d.value = index := by
  have num : 0 < d.numerator := Nat.mul_pos positive (Nat.pow_pos (by omega))
  have den : 0 < d.denominator := Nat.pow_pos (by omega)
  rw [readsBack, beq_iff_eq, nearestIndex_eq num den, Decimal.value_eq]

theorem Decimal.Hits.normalize {limit : Nat} (hits : d.Hits index) :
    (d.normalize limit).Hits index := by
  induction limit generalizing d with
  | zero => exact hits
  | succ limit ih =>
      unfold Decimal.normalize
      split
      · rename_i zeros
        simp only [Bool.and_eq_true, bne_iff_ne, beq_iff_eq] at zeros
        have whole : d.digits = 10 * (d.digits / 10) := by omega
        refine ih ⟨by have := hits.positive; dsimp only; omega, ?_⟩
        have same : Decimal.value ⟨d.digits / 10, d.shift + 1⟩ = d.value := by
          rw [Decimal.value, Decimal.value, whole, zpow_add₀ (by norm_num)]
          push_cast
          rw [Nat.mul_div_cancel_left _ (by omega)]
          ring
        rw [same]
        exact hits.nearest
      · exact hits

/-! ## Grids -/

theorem roundHalfEven_cases (num den : Nat) :
    roundHalfEven num den = num / den ∨ roundHalfEven num den = num / den + 1 := by
  unfold roundHalfEven
  dsimp only
  split
  · exact .inr rfl
  · exact .inl rfl

/-- A decimal that a grid gives reads back. -/
theorem hits_of_onGrid? {point : Int} {count : Nat} (found : onGrid? index point count = some d) :
    d.Hits index := by
  unfold onGrid? at found
  dsimp only at found
  generalize point - count = shift at found
  generalize numerator index * Nat.pow 10 (-shift).toNat = num at found
  generalize denominator index * Nat.pow 10 shift.toNat = den at found
  have below : (num / den != 0 && readsBack index ⟨num / den, shift⟩) = true →
      Decimal.Hits ⟨num / den, shift⟩ index := by
    intro hits
    simp only [Bool.and_eq_true, bne_iff_ne] at hits
    have positive : 0 < num / den := Nat.pos_of_ne_zero hits.1
    exact ⟨positive, (readsBack_iff positive).1 hits.2⟩
  have above : readsBack index ⟨num / den + 1, shift⟩ = true →
      Decimal.Hits ⟨num / den + 1, shift⟩ index := fun hits =>
    ⟨Nat.succ_pos _, (readsBack_iff (Nat.succ_pos _)).1 hits⟩
  -- where both neighbours read back the nearer one is taken, which is one of them
  split at found
  · rename_i both
    rw [Bool.and_eq_true] at both
    cases found
    rcases roundHalfEven_cases num den with same | same <;> rw [same]
    · exact below both.1
    · exact above both.2
  · split at found
    · rename_i hits
      cases found
      exact below hits
    · split at found
      · rename_i hits
        cases found
        exact above hits
      · cases found

/-- Among 17 digits a neighbour of the double reads back. -/
theorem onGrid?_isSome {point : Int} (low : (10 : ℚ) ^ (point - 1) ≤ value index) :
    (onGrid? index point 17).isSome = true := by
  have unit : (0 : ℚ) < 10 ^ (point - 17) := zpow_pos (by norm_num) _
  have ratio : (((numerator index * Nat.pow 10 (-(point - 17)).toNat : Nat) : ℚ) /
      (denominator index * Nat.pow 10 (point - 17).toNat : Nat)) * 10 ^ (point - 17) =
        value index := by
    rw [← numerator_div_denominator, zpow_eq_div 10 (point - 17), Nat.pow_eq, Nat.pow_eq]
    push_cast
    field_simp
  unfold onGrid?
  dsimp only
  push_cast
  generalize numerator index * Nat.pow 10 (-(point - 17)).toNat = num at ratio ⊢
  generalize denominator index * Nat.pow 10 (point - 17).toNat = den at ratio ⊢
  have large : (10 : ℚ) ^ 16 ≤ num / den := by
    have scaled : (10 : ℚ) ^ (point - 1) = 10 ^ 16 * 10 ^ (point - 17) := by
      rw [← zpow_natCast, ← zpow_add₀ (by norm_num)]
      congr 1
      push_cast
      ring
    rw [scaled, ← ratio] at low
    exact le_of_mul_le_mul_right low unit
  have floor : ((num / den : Nat) : ℚ) ≤ num / den ∧ (num / den : ℚ) < (num / den : Nat) + 1 := by
    rw [← Nat.floor_div_eq_div (K := ℚ)]
    exact ⟨Nat.floor_le (by positivity), Nat.lt_floor_add_one _⟩
  generalize num / den = below at floor ⊢
  have positive : 0 < below := by
    have above : (0 : ℚ) < below := by linarith
    exact_mod_cast above
  -- the nearer neighbour is at most half a step away, and a step is at most `10^-16` of the value
  have near : ∀ n : Nat, |(n : ℚ) - num / den| ≤ 1 / 2 → 0 < n →
      readsBack index ⟨n, point - 17⟩ = true := by
    intro n close positive
    refine (readsBack_iff positive).2 (nearest_of_close ?_ ?_)
    · exact mul_pos (by exact_mod_cast positive) unit
    · rw [← ratio]
      show |(n : ℚ) * 10 ^ (point - 17) - _| * _ < _
      rw [← sub_mul, abs_mul, abs_of_pos unit]
      nlinarith
  by_cases half : (num / den : ℚ) - below ≤ 1 / 2
  · have hits : (below != 0 && readsBack index ⟨below, point - 17⟩) = true := by
      rw [near below (abs_le.2 ⟨by linarith, by linarith⟩) positive]
      simpa using positive.ne'
    rw [hits]
    split <;> rfl
  · have hits : readsBack index ⟨below + 1, point - 17⟩ = true :=
      near (below + 1) (abs_le.2 ⟨by push_cast; linarith, by push_cast; linarith⟩) (Nat.succ_pos _)
    rw [hits]
    split
    · rfl
    · split <;> rfl

/-! ## The decimal point -/

/-- The estimate from the binary logarithm is not too large. -/
theorem pow_guess_le {log : Int} (least : -1074 ≤ log) (most : log < 1024) :
    (10 : ℚ) ^ (log * 30103 / 100000 - 1) ≤ 2 ^ log := by
  have up : ∀ n < 1024, 10 ^ (n * 30103 / 100000) ≤ 10 * 2 ^ n := by decide +kernel
  have down : ∀ n < 1075, 2 ^ n ≤ 10 * 10 ^ ((n * 30103 + 99999) / 100000) := by decide +kernel
  rcases le_total 0 log with positive | negative
  · obtain ⟨n, rfl⟩ := Int.eq_ofNat_of_zero_le positive
    rw [show ((n : Int) * 30103 / 100000 - 1) = ((n * 30103 / 100000 : Nat) : Int) - 1 by omega,
      zpow_sub₀ (by norm_num), zpow_natCast, zpow_natCast, zpow_one, div_le_iff₀' (by norm_num)]
    exact_mod_cast up n (by omega)
  · obtain ⟨n, rfl⟩ : ∃ n : Nat, log = -n := ⟨(-log).toNat, by omega⟩
    rw [show (-(n : Int) * 30103 / 100000 - 1) =
        -(((n * 30103 + 99999) / 100000 + 1 : Nat) : Int) by omega,
      zpow_neg, zpow_neg, zpow_natCast, zpow_natCast, pow_succ, mul_comm]
    refine inv_anti₀ (by positivity) ?_
    exact_mod_cast down n (by omega)

/-- The decimal point of a ratio stands at its first digit or before it. -/
theorem pow_decimalPoint_le {num den : Nat} (numPositive : 0 < num) (denPositive : 0 < den)
    (least : -1074 ≤ floorLog2 num den) (most : floorLog2 num den < 1024) :
    (10 : ℚ) ^ (decimalPoint num den - 1) ≤ num / den := by
  have above : ∀ p : Int, ¬ num * Nat.pow 10 (-p).toNat < den * Nat.pow 10 p.toNat →
      (10 : ℚ) ^ p ≤ num / den := by
    intro p notBelow
    have power : ((10 : Nat) : ℚ) ^ p ≤ num / den :=
      (mul_pow_le_iff (by omega) denPositive).1 (not_lt.1 notBelow)
    exact_mod_cast power
  unfold decimalPoint
  dsimp only
  split
  · refine (pow_guess_le least most).trans ?_
    rw [floorLog2_eq numPositive denPositive]
    exact ((log_eq_iff (by positivity)).1 rfl).1
  · rename_i first
    split
    · rw [add_sub_cancel_right]
      exact above _ (by simpa using first)
    · rename_i second
      rw [show floorLog2 num den * 30103 / 100000 + 2 - 1 =
        floorLog2 num den * 30103 / 100000 + 1 by ring]
      exact above _ (by simpa using second)

/-! ## The shortest decimal -/

/-- The double lies in the range of exponents. -/
theorem floorLog2_numerator (positive : 0 < index) (finite : index < indexBound) :
    0 < numerator index ∧ -1074 ≤ floorLog2 (numerator index) (denominator index) ∧
      floorLog2 (numerator index) (denominator index) < 1024 := by
  obtain ⟨same, small, least, shape⟩ := index_eq index
  have significant : 0 < significand index := by
    rcases shape with lowest | normal
    · rw [lowest, show (-1074 + 1074 : Int).toNat = 0 by omega, zero_mul] at same
      omega
    · omega
  have num : 0 < numerator index := Nat.mul_pos significant (Nat.pow_pos (by omega))
  have den : 0 < denominator index := Nat.pow_pos (by omega)
  have most : exponent index ≤ 971 := by
    have bound : indexBound = 2047 * block := rfl
    unfold exponent
    split
    · omega
    · have blocks : index / block < 2047 := Nat.div_lt_of_lt_mul (by rw [mul_comm, ← bound]; exact finite)
      omega
  have log : Int.log 2 (significand index : ℚ) < 53 := by
    rw [← Int.lt_zpow_iff_log_lt (by omega) (by exact_mod_cast significant)]
    exact_mod_cast small
  have log' : 0 ≤ Int.log 2 (significand index : ℚ) := by
    rw [← Int.zpow_le_iff_le_log (by omega) (by exact_mod_cast significant)]
    exact_mod_cast significant
  rw [floorLog2_eq num den, numerator_div_denominator, value,
    log_mul_zpow (by exact_mod_cast significant)]
  exact ⟨num, by omega, by omega⟩

/-- The shortest decimal of a positive double reads back. -/
theorem hits_shortest (positive : 0 < index) (finite : index < indexBound) :
    (shortest index).Hits index := by
  obtain ⟨num, least, most⟩ := floorLog2_numerator positive finite
  have den : 0 < denominator index := Nat.pow_pos (by omega)
  have low := pow_decimalPoint_le num den least most
  rw [numerator_div_denominator] at low
  unfold shortest
  dsimp only
  split
  · rename_i d found
    obtain ⟨count, -, onGrid⟩ := List.exists_of_findSome?_eq_some found
    exact (hits_of_onGrid? onGrid).normalize
  · rename_i none
    have last := List.findSome?_eq_none_iff.1 none 16 (by decide)
    have some_ := onGrid?_isSome low
    rw [last] at some_
    cases some_

/-! ## Reading decimals -/

theorem digitCount_bounds {n : Nat} (positive : 0 < n) :
    (10 : ℚ) ^ ((digitCount n : Int) - 1) ≤ n ∧ (n : ℚ) < 10 ^ (digitCount n : Int) := by
  have counted : 0 < digitCount n := Nat.length_toDigits_pos
  constructor
  · by_cases single : digitCount n = 1
    · have one : (1 : ℚ) ≤ n := by exact_mod_cast positive
      rw [single]
      simpa using one
    · have long : ¬ digitCount n ≤ digitCount n - 1 := by omega
      have low : ¬ n < 10 ^ (digitCount n - 1) := fun below =>
        long ((Nat.length_toDigits_le_iff (by omega) (by omega)).2 below)
      rw [show (digitCount n : Int) - 1 = ((digitCount n - 1 : Nat) : Int) by omega, zpow_natCast]
      exact_mod_cast not_lt.1 low
  · rw [zpow_natCast]
    exact_mod_cast (Nat.length_toDigits_le_iff (by omega) counted).1 (Nat.le_refl _)

/-- Digits at a decimal shift are read as the double that their value rounds to. -/
theorem ofDecimal_eq {digits : Nat} {shift : Int} (positive : 0 < index) (finite : index < indexBound)
    (hits : Decimal.Hits ⟨digits, shift⟩ index) :
    ofDecimal false digits shift = .finite false ⟨index, finite⟩ := by
  have digitsPositive : 0 < digits := hits.positive
  obtain ⟨low, high⟩ := digitCount_bounds digitsPositive
  have unit : (0 : ℚ) < 10 ^ shift := zpow_pos (by norm_num) _
  have valuePositive : 0 < Decimal.value ⟨digits, shift⟩ :=
    mul_pos (by exact_mod_cast digitsPositive) unit
  -- below `2^-1076` a value rounds to zero and from `2^1024` on to infinity; the index is neither
  have notTiny : ¬ (digitCount digits + shift : Int) < -330 := by
    intro tiny
    have below : Decimal.value ⟨digits, shift⟩ < 2 ^ (-1076 : Int) := by
      calc (digits : ℚ) * 10 ^ shift < 10 ^ (digitCount digits : Int) * 10 ^ shift :=
            mul_lt_mul_of_pos_right high unit
        _ = 10 ^ ((digitCount digits : Int) + shift) := (zpow_add₀ (by norm_num) _ _).symm
        _ ≤ 10 ^ (-331 : Int) := zpow_le_zpow_right₀ (by norm_num) (by omega)
        _ ≤ 2 ^ (-1076 : Int) := by
          have powers : 2 ^ 1076 ≤ 10 ^ 331 := by decide +kernel
          rw [show (-331 : Int) = -(331 : Nat) by rfl, show (-1076 : Int) = -(1076 : Nat) by rfl,
            zpow_neg, zpow_neg, zpow_natCast, zpow_natCast]
          exact inv_anti₀ (by positivity) (by exact_mod_cast powers)
    have zero := nearest_of_tiny valuePositive below
    rw [hits.nearest] at zero
    omega
  have notHuge : ¬ (digitCount digits + shift : Int) > 310 := by
    intro huge
    have above : (2 : ℚ) ^ (1024 : Int) ≤ Decimal.value ⟨digits, shift⟩ := by
      calc (2 : ℚ) ^ (1024 : Int) ≤ 10 ^ (310 : Int) := by
            have powers : 2 ^ 1024 ≤ 10 ^ 310 := by decide +kernel
            exact_mod_cast powers
        _ ≤ 10 ^ ((digitCount digits : Int) - 1 + shift) :=
            zpow_le_zpow_right₀ (by norm_num) (by omega)
        _ = 10 ^ ((digitCount digits : Int) - 1) * 10 ^ shift := zpow_add₀ (by norm_num) _ _
        _ ≤ digits * 10 ^ shift := mul_le_mul_of_nonneg_right low unit.le
    have large := le_nearest_of_huge above
    rw [hits.nearest] at large
    omega
  have back := (readsBack_iff hits.positive).2 hits.nearest
  rw [readsBack, beq_iff_eq] at back
  have num : digits * Nat.pow 10 shift.toNat ≠ 0 :=
    (Nat.mul_pos digitsPositive (Nat.pow_pos (by omega))).ne'
  unfold ofDecimal
  simp only [beq_iff_eq, digitsPositive.ne', notTiny, notHuge, Bool.or_eq_true, decide_eq_true_eq,
    or_self, if_false]
  rw [ofRatio, if_neg (by simpa using num)]
  show ofIndex false (nearestIndex (Decimal.numerator ⟨digits, shift⟩)
    (Decimal.denominator ⟨digits, shift⟩)) = _
  rw [back, ofIndex, dif_pos finite]

end TypedContract.Double
