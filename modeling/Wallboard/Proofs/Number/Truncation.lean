import Mathlib.Order.Basic
import Wallboard.Number.Rounding

/-!
Integers divided with rounding towards zero. What is left of the value is smaller than the divisor
and lies on the same side of zero as the value; this determines the quotient, so that opposite
values have opposite quotients and a larger value by a positive divisor has no smaller one.
-/
namespace Wallboard

/-- What is left of the value is smaller than the divisor and, unless nothing is left, has the sign
of the value. -/
def CutOff (value divisor quotient : Int) : Prop :=
  ∃ rest : Int, value = quotient * divisor + rest ∧ rest.natAbs < divisor.natAbs ∧
    (rest = 0 ∨ rest.sign = value.sign)

variable {value larger divisor quotient other rest : Int}

theorem truncatedQuotient_of_same (same : value < 0 ↔ divisor < 0) :
    truncatedQuotient value divisor = (value.natAbs / divisor.natAbs : Nat) := by
  have equal : decide (value < 0) = decide (divisor < 0) := decide_eq_decide.mpr same
  rw [truncatedQuotient, if_pos equal, Int.ofNat_fdiv]

theorem truncatedQuotient_of_opposite (opposite : ¬ (value < 0 ↔ divisor < 0)) :
    truncatedQuotient value divisor = -(value.natAbs / divisor.natAbs : Nat) := by
  have differ : decide (value < 0) ≠ decide (divisor < 0) := mt decide_eq_decide.mp opposite
  rw [truncatedQuotient, if_neg differ, Int.ofNat_fdiv]

theorem truncatedQuotient_eq_sign_mul (value : Int) (divides : divisor ≠ 0) :
    truncatedQuotient value divisor =
      value.sign * divisor.sign * (value.natAbs / divisor.natAbs : Nat) := by
  by_cases zero : value = 0
  · simp [zero, truncatedQuotient]
  by_cases negative : value < 0
  · by_cases below : divisor < 0
    · rw [truncatedQuotient_of_same (iff_of_true negative below),
        Int.sign_eq_neg_one_of_neg negative, Int.sign_eq_neg_one_of_neg below, Int.neg_mul_neg,
        Int.one_mul, Int.one_mul]
    · have above : 0 < divisor := by omega
      have opposite : ¬ (value < 0 ↔ divisor < 0) := fun same => below (same.mp negative)
      rw [truncatedQuotient_of_opposite opposite, Int.sign_eq_neg_one_of_neg negative,
        Int.sign_eq_one_of_pos above, Int.mul_one, Int.neg_one_mul]
  · have positive : 0 < value := by omega
    by_cases below : divisor < 0
    · have opposite : ¬ (value < 0 ↔ divisor < 0) := fun same => negative (same.mpr below)
      rw [truncatedQuotient_of_opposite opposite, Int.sign_eq_one_of_pos positive,
        Int.sign_eq_neg_one_of_neg below, Int.one_mul, Int.neg_one_mul]
    · have above : 0 < divisor := by omega
      rw [truncatedQuotient_of_same (iff_of_false negative below),
        Int.sign_eq_one_of_pos positive, Int.sign_eq_one_of_pos above, Int.one_mul, Int.one_mul]

theorem truncatedQuotient_mul (value : Int) (divides : divisor ≠ 0) :
    truncatedQuotient value divisor * divisor =
      value.sign * (value.natAbs / divisor.natAbs * divisor.natAbs : Nat) := by
  rw [truncatedQuotient_eq_sign_mul value divides]
  generalize value.natAbs / divisor.natAbs = quotient
  calc value.sign * divisor.sign * (quotient : Int) * divisor
      = value.sign * (quotient * (divisor.sign * divisor)) := by ac_rfl
    _ = value.sign * (quotient * divisor.natAbs : Nat) := by
        rw [Int.sign_mul_self, Int.natCast_mul]

theorem cutOff_truncatedQuotient (value : Int) (divides : divisor ≠ 0) :
    CutOff value divisor (truncatedQuotient value divisor) := by
  have small := Nat.mod_lt value.natAbs (Int.natAbs_pos.mpr divides)
  have multiple := truncatedQuotient_mul value divides
  refine ⟨value.sign * (value.natAbs % divisor.natAbs : Nat), ?parts, ?small, ?sign⟩
  case parts =>
    calc value
        = value.sign * value.natAbs := (Int.sign_mul_natAbs value).symm
      _ = value.sign * ((value.natAbs / divisor.natAbs * divisor.natAbs +
            value.natAbs % divisor.natAbs : Nat) : Int) := by rw [Nat.div_add_mod']
      _ = truncatedQuotient value divisor * divisor +
            value.sign * (value.natAbs % divisor.natAbs : Nat) := by
          rw [Int.natCast_add, Int.mul_add, multiple]
  case small =>
    rw [Int.natAbs_mul, Int.natAbs_natCast, Int.natAbs_sign]
    split <;> omega
  case sign =>
    by_cases none : value.natAbs % divisor.natAbs = 0
    · exact .inl (by rw [none, Int.natCast_zero, Int.mul_zero])
    · exact .inr (by
        rw [Int.sign_mul, Int.sign_sign, Int.sign_natCast_of_ne_zero none, Int.mul_one])

theorem side_of_rest (sign : rest = 0 ∨ rest.sign = value.sign) :
    (0 < value → 0 ≤ rest) ∧ (value < 0 → rest ≤ 0) ∧ (value = 0 → rest = 0) := by
  rcases sign with rfl | same
  · simp
  · refine ⟨?_, ?_, ?_⟩
    · intro positive
      rw [Int.sign_eq_one_of_pos positive] at same
      exact Int.le_of_lt (Int.pos_of_sign_eq_one same)
    · intro negative
      rw [Int.sign_eq_neg_one_of_neg negative] at same
      exact Int.le_of_lt (Int.neg_of_sign_eq_neg_one same)
    · intro zero
      rw [zero] at same
      exact Int.sign_eq_zero_iff_zero.mp same

namespace CutOff

theorem unique (cut : CutOff value divisor quotient) (alsoCut : CutOff value divisor other) :
    quotient = other := by
  obtain ⟨rest, parts, small, sign⟩ := cut
  obtain ⟨left, otherParts, otherSmall, otherSign⟩ := alsoCut
  have side := side_of_rest sign
  have otherSide := side_of_rest otherSign
  have apart : (quotient - other) * divisor = left - rest := by
    rw [Int.sub_mul]
    omega
  -- Both rests lie on the same side of zero, so that they are less than a divisor apart.
  have near : (left - rest).natAbs < divisor.natAbs := by omega
  rw [← apart, Int.natAbs_mul] at near
  by_contra differ
  have least : 1 ≤ (quotient - other).natAbs := Int.natAbs_pos.mpr (by omega)
  exact absurd near (Nat.not_lt.mpr (Nat.le_mul_of_pos_left divisor.natAbs least))

theorem neg (cut : CutOff value divisor quotient) : CutOff (-value) divisor (-quotient) := by
  obtain ⟨rest, parts, small, sign⟩ := cut
  refine ⟨-rest, ?_, by rwa [Int.natAbs_neg], ?_⟩
  · rw [Int.neg_mul, parts, Int.neg_add]
  · rw [Int.neg_eq_zero, Int.sign_neg, Int.sign_neg, Int.neg_inj]
    exact sign

theorem le_of_le (cut : CutOff value divisor quotient) (alsoCut : CutOff larger divisor other)
    (positive : 0 < divisor) (le : value ≤ larger) : quotient ≤ other := by
  obtain ⟨rest, parts, small, sign⟩ := cut
  obtain ⟨left, otherParts, otherSmall, otherSign⟩ := alsoCut
  have side := side_of_rest sign
  have otherSide := side_of_rest otherSign
  by_contra less
  have step : (other + 1) * divisor ≤ quotient * divisor :=
    Int.mul_le_mul_of_nonneg_right (Int.not_le.mp less) (Int.le_of_lt positive)
  rw [Int.add_mul, Int.one_mul] at step
  -- The values would lie on both sides of zero, and so would the quotients.
  have negative : value < 0 := by omega
  have exceeds : 0 < larger := by omega
  have most : quotient * divisor < 1 * divisor := by omega
  have least : -1 * divisor < other * divisor := by omega
  have upper := Int.lt_of_mul_lt_mul_right most (Int.le_of_lt positive)
  have lower := Int.lt_of_mul_lt_mul_right least (Int.le_of_lt positive)
  omega

end CutOff

theorem truncatedQuotient_neg (value : Int) (divides : divisor ≠ 0) :
    truncatedQuotient (-value) divisor = -truncatedQuotient value divisor :=
  (cutOff_truncatedQuotient (-value) divides).unique (cutOff_truncatedQuotient value divides).neg

theorem cutOff_tdiv (value : Int) (divides : divisor ≠ 0) :
    CutOff value divisor (value.tdiv divisor) := by
  refine ⟨value.tmod divisor, (Int.tdiv_mul_add_tmod value divisor).symm, ?_, ?_⟩
  · rw [Int.natAbs_tmod]
    exact Nat.mod_lt _ (Int.natAbs_pos.mpr divides)
  · have sign := Int.sign_tmod value divisor
    split at sign
    · exact .inl (Int.sign_eq_zero_iff_zero.mp sign)
    · exact .inr sign

theorem truncatedQuotient_eq_tdiv (value divisor : Int) :
    truncatedQuotient value divisor = value.tdiv divisor := by
  by_cases zero : divisor = 0
  · simp [zero, truncatedQuotient]
  · exact (cutOff_truncatedQuotient value zero).unique (cutOff_tdiv value zero)

end Wallboard
