import Mathlib.Algebra.Order.Floor.Ring
import Mathlib.Data.Rat.Floor
import Mathlib.Tactic.FieldSimp
import Mathlib.Tactic.Linarith

/-!
# Rounding half away from zero

The nearest integer of a rational number, the one farther from zero for a half.
-/

namespace CommitmentOptimizer.Foundations.HalfAwayRounding

set_option autoImplicit false

def roundHalfAway (value : ℚ) : ℤ :=
  if 0 ≤ value then ⌊value + 1 / 2⌋ else -⌊-value + 1 / 2⌋

variable {left right : ℚ}

theorem round_half_away_int (value : ℤ) : roundHalfAway value = value := by
  have half : ⌊(1 / 2 : ℚ)⌋ = 0 := by
    rw [Int.floor_eq_zero_iff]
    constructor <;> norm_num
  unfold roundHalfAway
  split_ifs
  · rw [Int.floor_intCast_add, half, add_zero]
  · rw [← Int.cast_neg, Int.floor_intCast_add, half, add_zero, neg_neg]

theorem round_half_away_nonneg (nonneg : 0 ≤ left) : 0 ≤ roundHalfAway left := by
  rw [roundHalfAway, if_pos nonneg]
  exact Int.floor_nonneg.mpr (by linarith)

theorem round_half_away_nonpos (negative : left < 0) : roundHalfAway left ≤ 0 := by
  rw [roundHalfAway, if_neg (not_le.mpr negative), neg_nonpos]
  exact Int.floor_nonneg.mpr (by linarith)

theorem round_half_away_mono (less : left ≤ right) : roundHalfAway left ≤ roundHalfAway right := by
  rcases le_or_gt 0 left with nonneg | negative
  · rw [roundHalfAway, roundHalfAway, if_pos nonneg, if_pos (le_trans nonneg less)]
    exact Int.floor_mono (by linarith)
  · rcases le_or_gt 0 right with rightNonneg | rightNegative
    · exact le_trans (round_half_away_nonpos negative) (round_half_away_nonneg rightNonneg)
    · rw [roundHalfAway, roundHalfAway, if_neg (not_le.mpr negative),
        if_neg (not_le.mpr rightNegative)]
      exact neg_le_neg (Int.floor_mono (by linarith))

/-- Numbers that are one apart do not round to the same integer. -/
theorem round_half_away_strict (apart : left + 1 ≤ right) :
    roundHalfAway left < roundHalfAway right := by
  rcases le_or_gt 0 left with nonneg | negative
  · rw [roundHalfAway, roundHalfAway, if_pos nonneg, if_pos (by linarith), Int.lt_iff_add_one_le,
      ← Int.floor_add_one]
    exact Int.floor_mono (by linarith)
  · rcases le_or_gt 0 right with rightNonneg | rightNegative
    · refine lt_of_le_of_ne (round_half_away_mono (by linarith)) fun same => ?_
      -- both would be zero, and each number within half of it
      have zero : roundHalfAway right = 0 :=
        le_antisymm (same ▸ round_half_away_nonpos negative) (round_half_away_nonneg rightNonneg)
      have leftZero := same.trans zero
      rw [roundHalfAway, if_pos rightNonneg, Int.floor_eq_zero_iff] at zero
      rw [roundHalfAway, if_neg (not_le.mpr negative), neg_eq_zero, Int.floor_eq_zero_iff]
        at leftZero
      linarith [zero.2, leftZero.2]
    · rw [roundHalfAway, roundHalfAway, if_neg (not_le.mpr negative),
        if_neg (not_le.mpr rightNegative), neg_lt_neg_iff, Int.lt_iff_add_one_le,
        ← Int.floor_add_one]
      exact Int.floor_mono (by linarith)

/-- A number rounds to at most a bound when it is less than half above it. -/
theorem round_half_away_le_iff {bound : ℤ} (nonneg : 0 ≤ bound) :
    roundHalfAway left ≤ bound ↔ left < bound + 1 / 2 := by
  have castNonneg : (0 : ℚ) ≤ bound := by exact_mod_cast nonneg
  rcases le_or_gt 0 left with positive | negative
  · rw [roundHalfAway, if_pos positive, ← Int.lt_add_one_iff, Int.floor_lt]
    push_cast
    constructor <;> intro less <;> linarith
  · exact iff_of_true ((round_half_away_nonpos negative).trans nonneg) (by linarith)

/-- Adding half of the divisor before a division rounds a half up. -/
theorem half_added_quotient (numerator : ℤ) {denominator : ℕ} (positive : 0 < denominator) :
    (numerator + denominator / 2) / (denominator : ℤ) =
      ⌊(numerator / denominator : ℚ) + 1 / 2⌋ := by
  have castPositive : (denominator : ℚ) ≠ 0 := by exact_mod_cast positive.ne'
  have halves : (numerator + denominator / 2) / (denominator : ℤ) =
      (2 * numerator + denominator) / ((2 * denominator : ℕ) : ℤ) := by
    rw [Nat.cast_mul, Nat.cast_ofNat, ← Int.ediv_ediv_of_nonneg (by decide : (0 : ℤ) ≤ 2)]
    congr 1
    omega
  have quotient : (numerator / denominator : ℚ) + 1 / 2 =
      ((2 * numerator + denominator : ℤ) : ℚ) / ((2 * denominator : ℕ) : ℚ) := by
    push_cast
    field_simp
  rw [halves, quotient, Rat.floor_intCast_div_natCast]

end CommitmentOptimizer.Foundations.HalfAwayRounding
