import Wallboard.Proofs.Display.Scaled

namespace Wallboard

namespace Tank

def Natural (tank : Tank) : Prop := 0 ≤ tank.current ∧ 0 ≤ tank.capacity

/-- What the level is measured by: the capacity or, for a tank without any, one. -/
def measure (tank : Tank) : Int := if tank.capacity = 0 then 1 else tank.capacity

/-- The tank holds some whole hundredths of its measure, and not one more. -/
structure Holds (tank : Tank) (percent : Nat) : Prop where
  lower : percent * tank.measure ≤ 100 * tank.current
  upper : 100 * tank.current < (percent + 1) * tank.measure

variable {tank other : Tank} {percent more : Nat}

theorem measure_pos (natural : tank.Natural) : 0 < tank.measure := by
  have least := natural.2
  unfold measure
  split
  · decide
  · omega

theorem measure_le_measure (natural : tank.Natural) (le : tank.capacity ≤ other.capacity) :
    tank.measure ≤ other.measure := by
  have least := natural.2
  unfold measure
  split <;> split <;> omega

theorem measure_of_pos (sized : 0 < tank.capacity) : tank.measure = tank.capacity :=
  if_neg (Int.ne_of_gt sized)

namespace Holds

theorem le_of_le (holds : tank.Holds percent) (alsoHolds : other.Holds more)
    (natural : other.Natural) (emptier : tank.current ≤ other.current)
    (larger : other.capacity ≤ tank.capacity) : percent ≤ more := by
  have positive := measure_pos natural
  have between : (percent : Int) * other.measure < (more + 1) * other.measure :=
    calc
      (percent : Int) * other.measure ≤ percent * tank.measure :=
        Int.mul_le_mul_of_nonneg_left (measure_le_measure natural larger) (Int.natCast_nonneg percent)
      _ ≤ 100 * tank.current := holds.lower
      _ ≤ 100 * other.current := Int.mul_le_mul_of_nonneg_left emptier (by decide)
      _ < (more + 1) * other.measure := alsoHolds.upper
  have fewer : (percent : Int) < more + 1 := Int.lt_of_mul_lt_mul_right between (Int.le_of_lt positive)
  omega

theorem eq_of_full (holds : tank.Holds percent) (sized : 0 < tank.capacity)
    (full : tank.current = tank.capacity) : percent = 100 := by
  have lower := holds.lower
  have upper := holds.upper
  rw [measure_of_pos sized, full] at lower upper
  have most : (percent : Int) ≤ 100 := Int.le_of_mul_le_mul_right lower sized
  have least : (100 : Int) < percent + 1 := Int.lt_of_mul_lt_mul_right upper (Int.le_of_lt sized)
  omega

theorem lt_of_not_full (holds : tank.Holds percent) (sized : 0 < tank.capacity)
    (room : tank.current < tank.capacity) : percent < 100 := by
  have lower := holds.lower
  rw [measure_of_pos sized] at lower
  have below : (percent : Int) * tank.capacity < 100 * tank.capacity := by omega
  have fewer : (percent : Int) < 100 := Int.lt_of_mul_lt_mul_right below (Int.le_of_lt sized)
  omega

end Holds

end Tank

namespace Display

open Integer

variable {tank : Tank} {percent : Nat}

theorem holds_fillPercentage (natural : tank.Natural) :
    ∃ percent : Nat, fillPercentage tank = percent ∧ tank.Holds percent := by
  have positive := Tank.measure_pos natural
  have floor : fillPercentage tank = tank.current * 100 / tank.measure :=
    Int.fdiv_eq_ediv_of_nonneg _ (Int.le_of_lt positive)
  have least : 0 ≤ fillPercentage tank := by
    rw [floor]
    exact Int.ediv_nonneg (Int.mul_nonneg natural.1 (by decide)) (Int.le_of_lt positive)
  obtain ⟨percent, counted⟩ := Int.eq_ofNat_of_zero_le least
  refine ⟨percent, counted, ?_, ?_⟩
  · rw [← counted, floor, Int.mul_comm 100]
    exact Int.ediv_mul_le _ (Int.ne_of_gt positive)
  · rw [← counted, floor, Int.mul_comm 100]
    exact Int.lt_ediv_add_one_mul_self _ positive

theorem percentage_of_tank {snapshot : Snapshot} {kind : Gas} (found : snapshot.tank? kind = some tank)
    (padWidth : Option Int) :
    element snapshot (.gas kind padWidth .percentage) =
      paddedInteger (fillPercentage tank) padWidth := by
  simp only [element, found, gas]

theorem percentage_of_short {snapshot : Snapshot} {kind : Gas} (found : snapshot.tank? kind = some tank)
    (counted : fillPercentage tank = percent) (short : WithinLimit percent) (padWidth : Option Int) :
    element snapshot (.gas kind padWidth .percentage) = padded (digits percent) padWidth := by
  rw [percentage_of_tank found, counted, paddedInteger_of_short short,
    text_of_nonneg (Int.natCast_nonneg percent), Int.natAbs_natCast]

theorem fillPercentage_of_shown {snapshot : Snapshot} {kind : Gas}
    (found : snapshot.tank? kind = some tank)
    (shown : element snapshot (.gas kind none .percentage) = .ok (digits percent)) :
    fillPercentage tank = percent := by
  rw [percentage_of_tank found, paddedInteger_none] at shown
  apply text_injective
  rw [← eq_text_of_printed shown, text_of_nonneg (Int.natCast_nonneg percent), Int.natAbs_natCast]

/-- The percentage of a tank is the number of whole hundredths of its capacity in it, where a tank
without capacity is measured by one; its digits are shown, padded to the width of the element. A
tank that holds no less in no larger a capacity never shows less, and only a tank without room shows
a hundred or more. -/
theorem tank_shown_in_whole_hundredths {tank : Tank} (natural : tank.Natural) :
    ∃ percent : Nat, tank.Holds percent ∧
      (WithinLimit percent → ∀ snapshot kind padWidth, snapshot.tank? kind = some tank →
        element snapshot (.gas kind padWidth .percentage) = padded (digits percent) padWidth) ∧
      (∀ (other : Tank) (more : Nat), other.Natural → tank.current ≤ other.current →
        other.capacity ≤ tank.capacity → ∀ snapshot kind, snapshot.tank? kind = some other →
          element snapshot (.gas kind none .percentage) = .ok (digits more) → percent ≤ more) ∧
      (0 < tank.capacity →
        (tank.current = tank.capacity → percent = 100) ∧
          (tank.current < tank.capacity → percent ≤ 99)) := by
  obtain ⟨percent, counted, holds⟩ := holds_fillPercentage natural
  refine ⟨percent, holds, ?_, ?_, ?_⟩
  · intro short snapshot kind padWidth found
    exact percentage_of_short found counted short padWidth
  · intro other more alsoNatural emptier larger snapshot kind found shown
    obtain ⟨otherPercent, otherCounted, otherHolds⟩ := holds_fillPercentage alsoNatural
    have same : otherPercent = more := by
      have told := fillPercentage_of_shown found shown
      rw [otherCounted] at told
      exact Int.ofNat.inj told
    rw [← same]
    exact holds.le_of_le otherHolds alsoNatural emptier larger
  · intro sized
    refine ⟨holds.eq_of_full sized, ?_⟩
    intro room
    exact Nat.le_of_lt_succ (holds.lt_of_not_full sized room)

/-- A large tank that lacks a single unit, and another with as much and no capacity. -/
theorem shown_short_of_full_and_without_capacity :
    let tank : Tank := ⟨999999999999999999999, 1000000000000000000000⟩
    let unsized : Tank := ⟨999999999999999999999, 0⟩
    let snapshot : Snapshot := { gas := [(.oxygen, tank), (.hydrogen, unsized)] }
    tank.Natural ∧ tank.Holds 99 ∧
      element snapshot (.gas .oxygen none .percentage) = .ok "99".toList ∧
      element snapshot (.gas .hydrogen none .percentage) = .ok "99999999999999999999900".toList ∧
      99 ≤ 99999999999999999999900 := by
  intro tank unsized snapshot
  have natural : tank.Natural := ⟨by decide, by decide⟩
  have alsoNatural : unsized.Natural := ⟨by decide, by decide⟩
  have without : element snapshot (.gas .hydrogen none .percentage) =
      .ok (digits 99999999999999999999900) := by decide +kernel
  obtain ⟨percent, holds, shown, more, full⟩ := tank_shown_in_whole_hundredths natural
  have most : percent ≤ 99 := (full (by decide)).2 (by decide)
  obtain rfl : percent = 99 := by
    have measure : tank.measure = 1000000000000000000000 := by decide
    have current : tank.current = 999999999999999999999 := rfl
    have upper := holds.upper
    rw [measure, current] at upper
    omega
  exact ⟨natural, holds, shown (by decide) snapshot .oxygen none rfl, without,
    more unsized 99999999999999999999900 alsoNatural (by decide) (by decide) snapshot .hydrogen rfl
      without⟩

end Display
end Wallboard
