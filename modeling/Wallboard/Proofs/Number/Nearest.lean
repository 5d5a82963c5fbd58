import Mathlib.Tactic.Linarith
import Mathlib.Tactic.NormNum.Pow
import Mathlib.Tactic.Positivity
import Wallboard.Proofs.Number.Written

/-!
Doubles that are nearest to a number. Every number in the neighbourhood of a finite double is read
as that double, with whatever decimal it is written.
-/
namespace Wallboard

/-- No natural number is nearer to the number, and if another is as near, this one is even. -/
def Nearest (nearest : Nat) (number : ℚ) : Prop :=
  |number - nearest| < 1 / 2 ∨ |number - nearest| = 1 / 2 ∧ nearest % 2 = 0

variable {nearest : Nat} {number : ℚ}

theorem Nearest.le (near : Nearest nearest number) : |number - nearest| ≤ 1 / 2 := by
  rcases near with less | ⟨half, _⟩
  · exact less.le
  · exact half.le

theorem Nearest.of_even (even : nearest % 2 = 0) (within : |number - nearest| ≤ 1 / 2) :
    Nearest nearest number := by
  rcases within.lt_or_eq with less | half
  · exact .inl less
  · exact .inr ⟨half, even⟩

variable {dividend divisor : Nat}

theorem Nearest.scaled (positive : 0 < divisor) (near : Nearest nearest ((dividend : ℚ) / divisor)) :
    (2 * (nearest * divisor) ≤ 2 * dividend + divisor ∧
      2 * dividend ≤ 2 * (nearest * divisor) + divisor) ∧
    (nearest % 2 = 0 ∨ 2 * (nearest * divisor) < 2 * dividend + divisor ∧
      2 * dividend < 2 * (nearest * divisor) + divisor) := by
  have unit : (0 : ℚ) < divisor := by exact_mod_cast positive
  have whole : (dividend : ℚ) / divisor * divisor = dividend := div_mul_cancel₀ _ unit.ne'
  constructor
  · obtain ⟨least, most⟩ := abs_le.mp near.le
    have rational : (2 * (nearest * divisor) : ℚ) ≤ 2 * dividend + divisor ∧
        (2 * dividend : ℚ) ≤ 2 * (nearest * divisor) + divisor := by
      constructor <;> nlinarith
    exact ⟨by exact_mod_cast rational.1, by exact_mod_cast rational.2⟩
  · rcases near with less | ⟨_, even⟩
    · obtain ⟨above, below⟩ := abs_lt.mp less
      have rational : (2 * (nearest * divisor) : ℚ) < 2 * dividend + divisor ∧
          (2 * dividend : ℚ) < 2 * (nearest * divisor) + divisor := by
        constructor <;> nlinarith
      exact .inr ⟨by exact_mod_cast rational.1, by exact_mod_cast rational.2⟩
    · exact .inl even

theorem eq_quotient_or_succ (positive : 0 < divisor)
    (lower : 2 * (nearest * divisor) ≤ 2 * dividend + divisor)
    (upper : 2 * dividend ≤ 2 * (nearest * divisor) + divisor) :
    nearest = dividend / divisor ∨ nearest = dividend / divisor + 1 := by
  have parts := Nat.div_add_mod dividend divisor
  have rest := Nat.mod_lt dividend positive
  have least : dividend / divisor ≤ nearest := by
    by_contra less
    have step : (nearest + 1) * divisor ≤ dividend / divisor * divisor :=
      Nat.mul_le_mul_right divisor (Nat.not_le.mp less)
    rw [Nat.add_mul, Nat.mul_comm (dividend / divisor)] at step
    omega
  have most : nearest ≤ dividend / divisor + 1 := by
    by_contra more
    have step : (dividend / divisor + 2) * divisor ≤ nearest * divisor :=
      Nat.mul_le_mul_right divisor (Nat.not_le.mp more)
    rw [Nat.add_mul, Nat.mul_comm (dividend / divisor)] at step
    omega
  omega

theorem roundedQuotient_toEven (positive : 0 < divisor)
    (near : Nearest nearest ((dividend : ℚ) / divisor)) :
    roundedQuotient .toEven dividend divisor = nearest := by
  obtain ⟨⟨lower, upper⟩, tie⟩ := near.scaled positive
  have parts := Nat.div_add_mod dividend divisor
  unfold roundedQuotient
  dsimp only
  obtain rfl | rfl := eq_quotient_or_succ positive lower upper
  · rw [Nat.mul_comm (dividend / divisor)] at tie upper
    split
    · rfl
    · split <;> omega
  · rw [Nat.add_mul, Nat.mul_comm (dividend / divisor)] at tie lower
    split
    · omega
    · split <;> omega

namespace Binary64

theorem log2_bounds {number : Nat} (positive : 0 < number) :
    (2 : ℚ) ^ (Nat.log2 number : Int) ≤ number ∧
      (number : ℚ) < 2 ^ ((Nat.log2 number : Int) + 1) := by
  have least := Nat.log2_self_le (Nat.ne_of_gt positive)
  have most := Nat.lt_log2_self (n := number)
  constructor
  · rw [zpow_natCast]
    exact_mod_cast least
  · have power : (2 : ℚ) ^ ((Nat.log2 number : Int) + 1) = ((2 ^ (Nat.log2 number + 1) : Nat) : ℚ) := by
      rw [← Nat.cast_succ, zpow_natCast, Nat.cast_pow, Nat.cast_ofNat]
    rw [power]
    exact_mod_cast most

theorem binaryOrder_bounds (positive : 0 < dividend) (divides : 0 < divisor) :
    (2 : ℚ) ^ binaryOrder dividend divisor ≤ dividend / divisor ∧
      (dividend / divisor : ℚ) < 2 ^ (binaryOrder dividend divisor + 1) := by
  obtain ⟨least, most⟩ := log2_bounds positive
  obtain ⟨low, high⟩ := log2_bounds divides
  have unit : (0 : ℚ) < divisor := by exact_mod_cast divides
  have below : (2 : ℚ) ^ ((Nat.log2 dividend : Int) - Nat.log2 divisor - 1) ≤ dividend / divisor := by
    have parts : (Nat.log2 dividend : Int) - Nat.log2 divisor - 1 =
        Nat.log2 dividend - (Nat.log2 divisor + 1) := by omega
    rw [parts, zpow_sub₀ (by norm_num)]
    exact div_le_div₀ (Nat.cast_nonneg _) least unit high.le
  have above : (dividend / divisor : ℚ) < 2 ^ ((Nat.log2 dividend : Int) - Nat.log2 divisor + 1) := by
    have parts : (Nat.log2 dividend : Int) - Nat.log2 divisor + 1 =
        Nat.log2 dividend + 1 - Nat.log2 divisor := by omega
    rw [parts, zpow_sub₀ (by norm_num)]
    exact div_lt_div₀ most low (zpow_nonneg (by norm_num) _) (zpow_pos (by norm_num) _)
  unfold binaryOrder
  extract_lets guess
  have reaches : (2 : ℚ) ^ guess ≤ dividend / divisor ↔
      divisor * Nat.pow 2 guess.toNat ≤ dividend * Nat.pow 2 (-guess).toNat := by
    rw [← zpow_toNat_div, div_le_div_iff₀ (by positivity) unit, mul_comm]
    exact_mod_cast Iff.rfl
  split
  · rename_i reached
    exact ⟨reaches.mpr reached, above⟩
  · rename_i missed
    rw [← reaches, not_le] at missed
    rw [Int.sub_add_cancel]
    exact ⟨below, missed⟩

variable {place : Int} {double : Binary64}

/-- The magnitude nearest to a quotient whose leading place is the first of 53, or a later one where
these are the last places there are. -/
theorem nearestMagnitude_eq (positive : 0 < dividend) (divides : 0 < divisor) (last : -1074 ≤ place)
    (least : place = -1074 ∨ (2 : ℚ) ^ 52 ≤ dividend / divisor / 2 ^ place)
    (most : (dividend / divisor / 2 ^ place : ℚ) < 2 ^ 53)
    (near : Nearest nearest (dividend / divisor / 2 ^ place)) :
    nearestMagnitude dividend divisor =
      min infiniteMagnitude ((place + 1074).toNat * 2 ^ 52 + nearest) := by
  obtain ⟨below, above⟩ := binaryOrder_bounds positive divides
  have ascending : (1 : ℚ) < 2 := by norm_num
  have unit : (0 : ℚ) < 2 ^ place := zpow_pos (by norm_num) _
  have shifted (power : Nat) : (2 : ℚ) ^ power * 2 ^ place = 2 ^ (power + place) := by
    rw [zpow_add₀ (by norm_num), zpow_natCast]
  have atMost : binaryOrder dividend divisor < (53 : Nat) + place := by
    rw [div_lt_iff₀ unit, shifted] at most
    exact (zpow_lt_zpow_iff_right₀ ascending).mp (below.trans_lt most)
  have same : max (-1074) (binaryOrder dividend divisor - 52) = place := by
    rcases least with lowest | least
    · omega
    · rw [le_div_iff₀ unit, shifted] at least
      have atLeast : (52 : Nat) + place < binaryOrder dividend divisor + 1 :=
        (zpow_lt_zpow_iff_right₀ ascending).mp (least.trans_lt above)
      omega
  have scaled : ((dividend * 2 ^ (-place).toNat : Nat) : ℚ) / (divisor * 2 ^ place.toNat : Nat) =
      dividend / divisor / 2 ^ place := by
    rw [← zpow_toNat_div]
    push_cast
    field_simp
  have rounded : roundedQuotient .toEven (dividend * 2 ^ (-place).toNat)
      (divisor * 2 ^ place.toNat) = nearest := by
    apply roundedQuotient_toEven (Nat.mul_pos divides (Nat.pow_pos (by decide)))
    rwa [scaled]
  simp only [nearestMagnitude, same, Nat.pow_eq, rounded]

theorem ofMagnitude_magnitude (double : Binary64) :
    ofMagnitude double.negative double.magnitude = double := by
  rcases double with ⟨bits⟩
  have most := bits.toNat_lt
  have parts : bits.toNat % 2 ^ 63 + (if 2 ^ 63 ≤ bits.toNat then 2 ^ 63 else 0) = bits.toNat := by
    split <;> omega
  simp only [ofMagnitude, negative, magnitude, Nat.pow_eq, decide_eq_true_eq, parts,
    UInt64.ofNat_toNat]

theorem magnitude_eq (double : Binary64) :
    double.magnitude = (double.scale + 1074).toNat * 2 ^ 52 + double.significand := by
  have parts : double.magnitude = 2 ^ 52 * double.exponentField + double.magnitude % 2 ^ 52 :=
    (Nat.div_add_mod _ _).symm
  unfold scale significand
  split
  · simp
  · rename_i normal
    simp only [Nat.pow_eq]
    omega

structure Placed (double : Binary64) : Prop where
  last : -1074 ≤ double.scale
  first : double.scale ≤ 971
  most : double.significand < 2 ^ 53
  least : double.scale = -1074 ∨ 2 ^ 52 ≤ double.significand

theorem placed (finite : double.isFinite = true) : double.Placed := by
  have below : double.magnitude < 2047 * 2 ^ 52 := of_decide_eq_true finite
  have parts : double.exponentField = double.magnitude / 2 ^ 52 := rfl
  have rest := Nat.mod_lt double.magnitude (Nat.pow_pos (by decide) : 0 < 2 ^ 52)
  constructor <;> (simp only [scale, significand, Nat.pow_eq]; split <;> omega)

theorem one_lt_exponentField_iff : 1 < double.exponentField ↔ -1074 < double.scale := by
  unfold scale
  split <;> omega

structure Neighbourhood.Holds (around : Neighbourhood) (number : ℚ) : Prop where
  least : around.low ≤ number / 2 ^ around.scale
  most : number / 2 ^ around.scale ≤ around.high
  inner : around.closed = false →
    around.low < number / 2 ^ around.scale ∧ number / 2 ^ around.scale < around.high

theorem cast_low {significand gap : Nat} (small : gap ≤ 4 * significand) :
    ((4 * significand - gap : Nat) : ℚ) = 4 * significand - gap := by
  rw [Nat.cast_sub small]
  push_cast
  rfl

/-- In units of its last place, a double is nearest to the numbers that round to it. Of those, none
is more than a quarter below a power of two. -/
theorem Neighbourhood.Holds.near (holds : double.neighbourhood.Holds number)
    (filled : 0 < double.significand) :
    Nearest double.significand (number / 2 ^ double.scale) ∧
      (double.significand = 2 ^ 52 → -1074 < double.scale →
        (double.significand : ℚ) - 1 / 4 ≤ number / 2 ^ double.scale) := by
  have quarters : number / 2 ^ (double.scale - 2) = 4 * (number / 2 ^ double.scale) := by
    rw [zpow_sub₀ (by norm_num)]
    norm_num
    ring
  obtain ⟨least, most, inner⟩ := holds
  simp only [neighbourhood, quarters, Nat.pow_eq, one_lt_exponentField_iff] at least most inner
  generalize number / 2 ^ double.scale = size at *
  have two := @cast_low double.significand 2 (by omega)
  have one := @cast_low double.significand 1 (by omega)
  push_cast at two one most
  constructor
  · rcases Nat.mod_two_eq_zero_or_one double.significand with even | odd
    · have least : (4 * double.significand - 2 : ℚ) ≤ 4 * size := by
        split at least
        · rw [one] at least
          linarith
        · rwa [two] at least
      exact .of_even even (abs_le.mpr ⟨by linarith, by linarith⟩)
    · -- The ends of this neighbourhood do not belong to it.
      obtain ⟨above, under⟩ := inner (by simp [odd])
      have other : ¬ (double.significand = 2 ^ 52 ∧ -1074 < double.scale) := by omega
      rw [if_neg other, two] at above
      push_cast at under
      exact .inl (abs_lt.mpr ⟨by linarith, by linarith⟩)
  · intro power above
    rw [if_pos ⟨power, above⟩, one] at least
    linarith

/-- Just below a power of two the last place is half as large, and the nearest number of these is
twice the significand. -/
theorem nearestMagnitude_below_power (finite : double.isFinite = true) (positive : 0 < dividend)
    (divides : 0 < divisor) (power : double.significand = 2 ^ 52) (last : -1074 < double.scale)
    (below : (dividend / divisor / 2 ^ double.scale : ℚ) < 2 ^ 52)
    (above : (double.significand : ℚ) - 1 / 4 ≤ dividend / divisor / 2 ^ double.scale) :
    nearestMagnitude dividend divisor = double.magnitude := by
  have infinite : double.magnitude < infiniteMagnitude := of_decide_eq_true finite
  have twice : (dividend / divisor / 2 ^ (double.scale - 1) : ℚ) =
      2 * (dividend / divisor / 2 ^ double.scale) := by
    rw [zpow_sub₀ (by norm_num), zpow_one]
    field_simp
  rw [power] at above
  push_cast at above
  have within : |(dividend / divisor / 2 ^ (double.scale - 1) - (2 ^ 53 : Nat) : ℚ)| ≤ 1 / 2 := by
    rw [twice]
    push_cast
    exact abs_le.mpr ⟨by linarith, by linarith⟩
  have least : (2 : ℚ) ^ 52 ≤ dividend / divisor / 2 ^ (double.scale - 1) := by linarith
  have most : (dividend / divisor / 2 ^ (double.scale - 1) : ℚ) < 2 ^ 53 := by linarith
  rw [nearestMagnitude_eq positive divides (by omega) (.inr least) most
    (.of_even (by decide) within)]
  rw [magnitude_eq, power] at infinite ⊢
  omega

theorem nearestMagnitude_of_holds (finite : double.isFinite = true)
    (filled : 0 < double.significand) (positive : 0 < dividend) (divides : 0 < divisor)
    (holds : double.neighbourhood.Holds (dividend / divisor)) :
    nearestMagnitude dividend divisor = double.magnitude := by
  obtain ⟨last, first, most, least⟩ := placed finite
  obtain ⟨near, quarter⟩ := holds.near filled
  have infinite : double.magnitude < infiniteMagnitude := of_decide_eq_true finite
  obtain ⟨lower, upper⟩ := abs_le.mp near.le
  have fits : (double.significand : ℚ) + 1 ≤ 2 ^ 53 := by exact_mod_cast most
  by_cases regular : double.scale = -1074 ∨ (2 : ℚ) ^ 52 ≤ dividend / divisor / 2 ^ double.scale
  · rw [nearestMagnitude_eq positive divides last regular (by linarith) near]
    rw [magnitude_eq] at infinite ⊢
    exact Nat.min_eq_right infinite.le
  · obtain ⟨above, short⟩ := not_or.mp regular
    have below := not_le.mp short
    have power : double.significand = 2 ^ 52 := by
      have reached : (double.significand : ℚ) < 2 ^ 52 + 1 := by linarith
      have most : double.significand < 2 ^ 52 + 1 := by exact_mod_cast reached
      omega
    exact nearestMagnitude_below_power finite positive divides power (by omega) below
      (quarter power (by omega))

/-- All numbers that round to a finite double other than zero are far from the ends of the range in
which decimals are decided by their leading place. -/
theorem Neighbourhood.Holds.range (finite : double.isFinite = true)
    (filled : 0 < double.significand) (holds : double.neighbourhood.Holds number) :
    (10 : ℚ) ^ (-401 : Int) ≤ number ∧ number < 10 ^ (400 : Int) := by
  obtain ⟨last, first, most, _⟩ := placed finite
  have unit : (0 : ℚ) < 2 ^ double.scale := zpow_pos (by norm_num) _
  obtain ⟨lower, upper⟩ := abs_le.mp (holds.near filled).1.le
  have one : (1 : ℚ) ≤ double.significand := by exact_mod_cast filled
  have fits : (double.significand : ℚ) + 1 ≤ 2 ^ 53 := by exact_mod_cast most
  have tiny : 2 ^ 1075 ≤ 10 ^ 401 := by decide +kernel
  have huge : 2 ^ 1024 < 10 ^ 400 := by decide +kernel
  constructor
  · calc
      (10 : ℚ) ^ (-401 : Int) ≤ 2 ^ (-1075 : Int) := by
        rw [zpow_neg, zpow_neg]
        apply inv_anti₀ (zpow_pos (by norm_num) _)
        exact_mod_cast tiny
      _ ≤ 2 ^ (double.scale - 1) := zpow_le_zpow_right₀ (by norm_num) (by omega)
      _ = 1 / 2 * 2 ^ double.scale := by
        rw [zpow_sub₀ (by norm_num), zpow_one]
        ring
      _ ≤ number := (le_div_iff₀ unit).mp (by linarith)
  · calc
      number ≤ 2 ^ 53 * 2 ^ double.scale := (div_le_iff₀ unit).mp (by linarith)
      _ = 2 ^ ((53 : Nat) + double.scale) := by rw [zpow_add₀ (by norm_num), zpow_natCast]
      _ ≤ 2 ^ (1024 : Int) := zpow_le_zpow_right₀ (by norm_num) (by omega)
      _ < 10 ^ (400 : Int) := by exact_mod_cast huge

open Integer

theorem decimal_bounds {coefficient : Nat} (positive : 0 < coefficient) (exponent : Int) :
    (10 : ℚ) ^ ((digits coefficient).length + exponent - 1) ≤ coefficient * 10 ^ exponent ∧
      (coefficient * 10 ^ exponent : ℚ) < 10 ^ ((digits coefficient).length + exponent) := by
  have ten : (0 : ℚ) < 10 ^ exponent := zpow_pos (by norm_num) _
  have length := length_digits_pos coefficient
  constructor
  · have parts : (digits coefficient).length + exponent - 1 =
        ((digits coefficient).length - 1 : Nat) + exponent := by omega
    rw [parts, zpow_add₀ (by norm_num), zpow_natCast]
    apply mul_le_mul_of_nonneg_right _ ten.le
    exact_mod_cast pow_le_of_length_digits positive
  · rw [zpow_add₀ (by norm_num), zpow_natCast]
    apply mul_lt_mul_of_pos_right _ ten
    exact_mod_cast lt_pow_length_digits coefficient

variable {decimal : Decimal}

theorem ofDecimal_of_holds (finite : double.isFinite = true) (filled : 0 < double.significand)
    (sign : decimal.negative = double.negative)
    (holds : double.neighbourhood.Holds (decimal.coefficient * 10 ^ decimal.exponent)) :
    ofDecimal decimal = double := by
  obtain ⟨least, most⟩ := holds.range finite filled
  have positive : 0 < decimal.coefficient := by
    apply Nat.pos_of_ne_zero
    intro zero
    rw [zero, Nat.cast_zero, zero_mul] at least
    exact absurd least (not_le.mpr (zpow_pos (by norm_num) _))
  obtain ⟨above, below⟩ := decimal_bounds positive decimal.exponent
  have ascending : (1 : ℚ) < 10 := by norm_num
  have low := (zpow_lt_zpow_iff_right₀ ascending).mp (least.trans_lt below)
  have high := (zpow_lt_zpow_iff_right₀ ascending).mp (above.trans_lt most)
  have same : ((decimal.coefficient * 10 ^ decimal.exponent.toNat : Nat) : ℚ) /
      (10 ^ (-decimal.exponent).toNat : Nat) = decimal.coefficient * 10 ^ decimal.exponent := by
    rw [← zpow_toNat_div]
    push_cast
    rw [mul_div_assoc]
  have found : nearestMagnitude (decimal.coefficient * 10 ^ decimal.exponent.toNat)
      (10 ^ (-decimal.exponent).toNat) = double.magnitude := by
    rw [← same] at holds
    exact nearestMagnitude_of_holds finite filled (Nat.mul_pos positive (Nat.pow_pos (by decide)))
      (Nat.pow_pos (by decide)) holds
  unfold ofDecimal
  dsimp only
  rw [if_neg (Nat.ne_of_gt positive), if_neg (by omega), if_neg (by omega), sign, Nat.pow_eq,
    Nat.pow_eq, found, ofMagnitude_magnitude]

theorem ofDecimal_of_zero (none : double.significand = 0) (sign : decimal.negative = double.negative)
    (zero : decimal.coefficient = 0) : ofDecimal decimal = double := by
  have magnitude : double.magnitude = 0 := by
    unfold significand at none
    split at none
    · exact none
    · rw [Nat.pow_eq] at none
      omega
  simp only [ofDecimal, zero, if_true, sign]
  rw [← magnitude, ofMagnitude_magnitude]

end Binary64
end Wallboard
