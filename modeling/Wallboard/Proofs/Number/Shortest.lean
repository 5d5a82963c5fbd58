import Wallboard.Proofs.Number.Nearest

/-!
The shortest decimal of a finite double. It is in the neighbourhood of the double, as the multiples
of a power of ten that has seventeen digits are close enough to meet that, so that it is read as the
double.
-/
namespace Wallboard

theorem roundedQuotient_cases (tie : Tie) (dividend divisor : Nat) :
    roundedQuotient tie dividend divisor = dividend / divisor ∨
      roundedQuotient tie dividend divisor = dividend / divisor + 1 := by
  unfold roundedQuotient
  dsimp only
  split
  · exact .inl rfl
  · split
    · exact .inr rfl
    · cases tie with
      | toEven =>
          dsimp only
          omega
      | up => exact .inr rfl

namespace Binary64

open Integer in
theorem decimalOrder_le {dividend divisor : Nat} (positive : 0 < dividend) (divides : 0 < divisor) :
    (10 : ℚ) ^ decimalOrder dividend divisor ≤ dividend / divisor := by
  have unit : (0 : ℚ) < divisor := by exact_mod_cast divides
  rw [le_div_iff₀ unit]
  unfold decimalOrder
  split
  · rename_i atLeast
    have filled : 0 < dividend / divisor := Nat.div_pos atLeast divides
    have length := length_digits_pos (dividend / divisor)
    have power := pow_le_of_length_digits filled
    have least : 10 ^ ((digits (dividend / divisor)).length - 1) * divisor ≤ dividend :=
      (Nat.mul_le_mul_right divisor power).trans (Nat.div_mul_le_self dividend divisor)
    have same : ((digits (dividend / divisor)).length : Int) - 1 =
        ((digits (dividend / divisor)).length - 1 : Nat) := by omega
    rw [same, zpow_natCast]
    exact_mod_cast least
  · have below := lt_pow_length_digits ((divisor - 1) / dividend)
    have most : divisor ≤ dividend * 10 ^ (digits ((divisor - 1) / dividend)).length := by
      have under := (Nat.div_lt_iff_lt_mul positive).mp below
      rw [Nat.mul_comm, Nat.pow_eq] at under
      omega
    rw [zpow_neg, zpow_natCast, inv_mul_le_iff₀ (by positivity), mul_comm]
    exact_mod_cast most

namespace Neighbourhood

/-- A step of the grid of the multiples of a power of ten, and the unit of a scale, as multiples of
one and the same number. -/
def gridStep (scale place : Int) : Nat := 10 ^ place.toNat * 2 ^ (-scale).toNat

def gridUnit (scale place : Int) : Nat := 2 ^ scale.toNat * 10 ^ (-place).toNat

variable {around : Neighbourhood} {scale place : Int}

theorem gridStep_pos : 0 < gridStep scale place :=
  Nat.mul_pos (Nat.pow_pos (by decide)) (Nat.pow_pos (by decide))

theorem gridUnit_pos : 0 < gridUnit scale place :=
  Nat.mul_pos (Nat.pow_pos (by decide)) (Nat.pow_pos (by decide))

theorem multiple_eq (point : Nat) :
    (point * 10 ^ place : ℚ) / 2 ^ scale =
      (point * gridStep scale place : Nat) / gridUnit scale place := by
  rw [← zpow_toNat_div, ← zpow_toNat_div 2, gridStep, gridUnit]
  push_cast
  field_simp

theorem le_multiple_iff {bound point : Nat} :
    (bound : ℚ) ≤ point * 10 ^ place / 2 ^ scale ↔
      bound * gridUnit scale place ≤ point * gridStep scale place := by
  rw [multiple_eq, le_div_iff₀ (by exact_mod_cast gridUnit_pos)]
  exact_mod_cast Iff.rfl

theorem multiple_le_iff {bound point : Nat} :
    (point * 10 ^ place / 2 ^ scale : ℚ) ≤ bound ↔
      point * gridStep scale place ≤ bound * gridUnit scale place := by
  rw [multiple_eq, div_le_iff₀ (by exact_mod_cast gridUnit_pos)]
  exact_mod_cast Iff.rfl

theorem holds_multiple_iff {point : Nat} :
    around.Holds (point * 10 ^ place) ↔
      let low := around.low * gridUnit around.scale place
      let high := around.high * gridUnit around.scale place
      let multiple := point * gridStep around.scale place
      (if around.closed then decide (low ≤ multiple) && decide (multiple ≤ high)
        else decide (low < multiple) && decide (multiple < high)) = true := by
  dsimp only
  cases closed : around.closed with
  | true =>
      rw [if_pos rfl, Bool.and_eq_true, decide_eq_true_eq, decide_eq_true_eq, ← le_multiple_iff,
        ← multiple_le_iff]
      exact ⟨fun holds => ⟨holds.1, holds.2⟩, fun within => ⟨within.1, within.2, by simp [closed]⟩⟩
  | false =>
      rw [if_neg Bool.false_ne_true, Bool.and_eq_true, decide_eq_true_eq, decide_eq_true_eq,
        ← not_le, ← not_le, ← le_multiple_iff, ← multiple_le_iff, not_le, not_le]
      exact ⟨fun holds => holds.inner closed,
        fun within => ⟨within.1.le, within.2.le, fun _ => within⟩⟩

/-- Where the multiples on both sides of a centre are no nearer than the ends around it, these are
at most a step apart. -/
theorem ends_within_step {low centre high step : Nat} (positive : 0 < step) (below : low < centre)
    (above : centre < high)
    (apart : ∀ point, point = centre / step ∨ point = centre / step + 1 →
      point * step ≤ low ∨ high ≤ point * step) : high ≤ low + step := by
  have floor : centre / step * step ≤ centre := Nat.div_mul_le_self centre step
  have ceiling : centre < (centre / step + 1) * step := by
    rw [Nat.mul_comm]
    exact Nat.lt_mul_div_succ centre positive
  have lower := apart _ (.inl rfl)
  have upper := apart _ (.inr rfl)
  rw [Nat.add_mul] at ceiling upper
  omega

/-- A search on a grid finds a multiple that is inside, unless the grid is too wide. -/
theorem gridPoint?_cases (below : around.low < around.centre) (above : around.centre < around.high)
    (place : Int) :
    (∃ point, around.gridPoint? place = some point ∧ around.Holds (point * 10 ^ place)) ∨
      around.gridPoint? place = none ∧
        (around.high : ℚ) ≤ around.low + 10 ^ place / 2 ^ around.scale := by
  unfold gridPoint?
  extract_lets step unit inside lower
  have inside_iff (point : Nat) : inside point = true ↔ around.Holds (point * 10 ^ place) :=
    holds_multiple_iff.symm
  split
  · rename_i lowerInside upperInside
    rcases roundedQuotient_cases .toEven (around.centre * unit) step with same | same
    · exact .inl ⟨_, rfl, (inside_iff _).mp (same ▸ lowerInside)⟩
    · exact .inl ⟨_, rfl, (inside_iff _).mp (same ▸ upperInside)⟩
  · rename_i lowerInside _
    exact .inl ⟨_, rfl, (inside_iff _).mp lowerInside⟩
  · rename_i _ upperInside
    exact .inl ⟨_, rfl, (inside_iff _).mp upperInside⟩
  · rename_i lowerOutside upperOutside
    refine .inr ⟨rfl, ?_⟩
    have apart : ∀ point, point = lower ∨ point = lower + 1 →
        point * step ≤ around.low * unit ∨ around.high * unit ≤ point * step := by
      intro point next
      by_contra between
      rw [not_or, Nat.not_le, Nat.not_le] at between
      have within : inside point = true := by
        simp [inside, between.1, between.2, between.1.le, between.2.le]
      rcases next with rfl | rfl
      · rw [lowerOutside] at within
        cases within
      · rw [upperOutside] at within
        cases within
    have wide : around.high * unit ≤ around.low * unit + 1 * step := by
      rw [Nat.one_mul]
      exact ends_within_step gridStep_pos (Nat.mul_lt_mul_of_pos_right below gridUnit_pos)
        (Nat.mul_lt_mul_of_pos_right above gridUnit_pos) apart
    have one : (10 ^ place : ℚ) / 2 ^ around.scale = (1 * step : Nat) / unit := by
      have first := @multiple_eq around.scale place 1
      rwa [Nat.cast_one, one_mul] at first
    have positive : (0 : ℚ) < unit := by exact_mod_cast gridUnit_pos
    have rational : (around.high * unit : ℚ) ≤ around.low * unit + (1 * step : Nat) := by
      exact_mod_cast wide
    rw [one, ← mul_le_mul_iff_of_pos_right positive, add_mul, div_mul_cancel₀ _ positive.ne']
    exact rational

end Neighbourhood

variable {double : Binary64}

/-- Seventeen digits are fine enough to meet the neighbourhood of a double. -/
theorem neighbourhood_wide (filled : 0 < double.significand) (most : double.significand < 2 ^ 53) :
    (double.neighbourhood.low : ℚ) + double.neighbourhood.centre / 10 ^ 16 <
      double.neighbourhood.high := by
  have fits : (double.significand : ℚ) < 2 ^ 53 := by exact_mod_cast most
  simp only [neighbourhood, Nat.pow_eq]
  split
  · rename_i power
    have size : (double.significand : ℚ) = 2 ^ 52 := by exact_mod_cast power.1
    rw [cast_low (by omega)]
    push_cast
    linarith
  · rw [cast_low (by omega)]
    push_cast
    linarith

theorem exists_gridPoint (filled : 0 < double.significand) (most : double.significand < 2 ^ 53)
    (below : double.neighbourhood.low < double.neighbourhood.centre)
    (above : double.neighbourhood.centre < double.neighbourhood.high) {order : Int}
    (leading : (10 : ℚ) ^ order ≤ double.neighbourhood.centre * 2 ^ double.neighbourhood.scale) :
    ∃ point, double.neighbourhood.gridPoint? (order - (16 : Nat)) = some point := by
  have unit : (0 : ℚ) < 2 ^ double.neighbourhood.scale := zpow_pos (by norm_num) _
  have fine : (10 : ℚ) ^ (order - (16 : Nat)) / 2 ^ double.neighbourhood.scale ≤
      double.neighbourhood.centre / 10 ^ 16 := by
    rw [zpow_sub₀ (by norm_num), zpow_natCast, div_right_comm]
    exact div_le_div_of_nonneg_right ((div_le_iff₀ unit).mpr leading) (by positivity)
  rcases Neighbourhood.gridPoint?_cases below above (order - (16 : Nat)) with
    ⟨point, found, _⟩ | ⟨_, narrow⟩
  · exact ⟨point, found⟩
  · have wide := neighbourhood_wide filled most
    exact absurd (narrow.trans (add_le_add_right fine _)) (not_le.mpr wide)

theorem shortest_holds (finite : double.isFinite = true) (filled : 0 < double.significand) :
    double.neighbourhood.Holds (double.shortest.coefficient * 10 ^ double.shortest.exponent) := by
  have most := (placed finite).most
  have below : double.neighbourhood.low < double.neighbourhood.centre := by
    simp only [neighbourhood]
    split <;> omega
  have above : double.neighbourhood.centre < double.neighbourhood.high :=
    Nat.lt_add_of_pos_right (by decide)
  unfold shortest
  extract_lets around order attempt
  rw [if_neg (Nat.ne_of_gt filled)]
  have leading : (10 : ℚ) ^ order ≤ around.centre * 2 ^ around.scale := by
    have least := decimalOrder_le
      (Nat.mul_pos (Nat.zero_lt_of_lt below) (Nat.pow_pos (by decide) : 0 < 2 ^ around.scale.toNat))
      (Nat.pow_pos (by decide) : 0 < 2 ^ (-around.scale).toNat)
    push_cast at least
    rwa [mul_div_assoc, zpow_toNat_div] at least
  obtain ⟨decimal, first⟩ : ∃ decimal, (List.range 17).findSome? attempt = some decimal := by
    obtain ⟨last, found⟩ := exists_gridPoint filled most below above leading
    have longest : attempt 16 = some ⟨double.negative, last, order - (16 : Nat)⟩ :=
      Option.map_eq_some_iff.mpr ⟨last, found, rfl⟩
    apply Option.isSome_iff_exists.mp
    apply List.findSome?_isSome_iff.mpr
    exact ⟨16, by decide, Option.isSome_iff_exists.mpr ⟨_, longest⟩⟩
  rw [first, Option.getD_some]
  obtain ⟨length, _, same⟩ := List.exists_of_findSome?_eq_some first
  obtain ⟨point, grid, rfl⟩ := Option.map_eq_some_iff.mp same
  rcases Neighbourhood.gridPoint?_cases below above (order - length) with
    ⟨other, found, holds⟩ | ⟨none, _⟩
  · rw [grid] at found
    obtain rfl := Option.some.inj found
    exact holds
  · rw [grid] at none
    cases none

theorem ofDecimal_of_shortest (finite : double.isFinite = true) {decimal : Decimal}
    (sign : decimal.negative = double.negative) (same : decimal.number = double.shortest.number) :
    ofDecimal decimal = double := by
  have size : (decimal.coefficient * 10 ^ decimal.exponent : ℚ) =
      double.shortest.coefficient * 10 ^ double.shortest.exponent := by
    rw [Decimal.number, Decimal.number, shortest_negative, sign] at same
    exact mul_left_cancel₀ (by split <;> decide) same
  rcases Nat.eq_zero_or_pos double.significand with none | filled
  · have zero : double.shortest.coefficient = 0 := by
      simp [shortest, none]
    rw [zero, Nat.cast_zero, zero_mul, mul_eq_zero] at size
    have coefficient := size.resolve_right (zpow_ne_zero _ (by norm_num))
    exact ofDecimal_of_zero none sign (by exact_mod_cast coefficient)
  · apply ofDecimal_of_holds finite filled sign
    rw [size]
    exact shortest_holds finite filled

end Binary64
end Wallboard
