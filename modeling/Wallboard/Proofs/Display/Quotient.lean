import Wallboard.Proofs.Display.Scaled

namespace Wallboard

namespace Integer

theorem text_neg_of_pos {value : Int} (positive : 0 < value) :
    text (-value) = '-' :: text value := by
  have below : -value < 0 := Int.neg_neg_of_pos positive
  rw [text_of_nonneg (Int.le_of_lt positive), text, if_pos below, Int.natAbs_neg]

theorem withinLimit_neg {value : Int} : WithinLimit (-value) ↔ WithinLimit value := by
  rw [WithinLimit, WithinLimit, Int.natAbs_neg]

end Integer

namespace Display

open Integer

/-- The element shows a value of the snapshot divided by a divisor, padded to a width. -/
inductive Divides : Element → Snapshot → Option Int → Int → Int → Prop
  | mass (padWidth : Option Int) (dry : Bool) (snapshot : Snapshot) :
      Divides (.mass padWidth dry) snapshot padWidth snapshot.totalMassKg 1000
  | power (divisor : Int) (padWidth : Option Int) (snapshot : Snapshot) :
      Divides (.power divisor padWidth) snapshot padWidth snapshot.powerRaw divisor

/-- A quotient and its opposite as they are displayed, each padded to a width of its own. Of the two
texts one is the other after a minus sign, or both are a zero; if one is too long, so is the other,
and both are refused. -/
structure ShowsOpposites (quotient : Int) (padWidth mirroredWidth : Option Int)
    (shown mirrored : Except DisplayFault Text) : Prop where
  positive : 0 < quotient → WithinLimit quotient →
    shown = padded (Integer.text quotient) padWidth ∧
      mirrored = padded ('-' :: Integer.text quotient) mirroredWidth
  negative : quotient < 0 → WithinLimit quotient →
    shown = padded ('-' :: Integer.text (-quotient)) padWidth ∧
      mirrored = padded (Integer.text (-quotient)) mirroredWidth
  zero : quotient = 0 → shown = padded ['0'] padWidth ∧ mirrored = padded ['0'] mirroredWidth
  long : ¬ WithinLimit quotient →
    shown = .error .unprintableInteger ∧ mirrored = .error .unprintableInteger

/-- The quotient of a value is the one that is cut off towards zero, the opposite value has the
opposite quotient, and a larger value by a positive divisor no smaller one. -/
structure DividedTowardsZero (value divisor : Int) : Prop where
  cut : CutOff value divisor (truncatedQuotient value divisor)
  only : ∀ quotient, CutOff value divisor quotient → quotient = truncatedQuotient value divisor
  opposite : truncatedQuotient (-value) divisor = -truncatedQuotient value divisor
  shown : ∀ element snapshot padWidth, Divides element snapshot padWidth value divisor →
    Display.element snapshot element = paddedInteger (truncatedQuotient value divisor) padWidth
  mirrored : ∀ element snapshot padWidth other otherSnapshot otherWidth,
    Divides element snapshot padWidth value divisor →
      Divides other otherSnapshot otherWidth (-value) divisor →
        ShowsOpposites (truncatedQuotient value divisor) padWidth otherWidth
          (Display.element snapshot element) (Display.element otherSnapshot other)
  monotone : 0 < divisor → ∀ larger, value ≤ larger →
    truncatedQuotient value divisor ≤ truncatedQuotient larger divisor

variable {value divisor quotient : Int} {element : Element} {snapshot : Snapshot}
  {padWidth : Option Int}

theorem Divides.shown (shows : Divides element snapshot padWidth value divisor)
    (divides : divisor ≠ 0) :
    Display.element snapshot element =
      paddedInteger (truncatedQuotient value divisor) padWidth := by
  cases shows with
  | mass => rw [Display.element]
  | power => rw [Display.element, if_neg divides]

theorem paddedInteger_opposite (positive : 0 < quotient) (short : WithinLimit quotient)
    (padWidth mirroredWidth : Option Int) :
    paddedInteger quotient padWidth = padded (Integer.text quotient) padWidth ∧
      paddedInteger (-quotient) mirroredWidth =
        padded ('-' :: Integer.text quotient) mirroredWidth := by
  have mirrored : WithinLimit (-quotient) := withinLimit_neg.mpr short
  constructor
  · exact paddedInteger_of_short short padWidth
  · rw [paddedInteger_of_short mirrored, text_neg_of_pos positive]

theorem paddedInteger_of_long (long : ¬ WithinLimit value) (padWidth : Option Int) :
    paddedInteger value padWidth = .error .unprintableInteger := by
  have unprintable : print? value = none := if_neg long
  rw [paddedInteger, printed, unprintable]
  rfl

theorem showsOpposites (quotient : Int) (padWidth mirroredWidth : Option Int) :
    ShowsOpposites quotient padWidth mirroredWidth (paddedInteger quotient padWidth)
      (paddedInteger (-quotient) mirroredWidth) := by
  constructor
  case positive =>
    intro positive short
    exact paddedInteger_opposite positive short padWidth mirroredWidth
  case negative =>
    intro negative short
    have signed := paddedInteger_opposite (Int.neg_pos_of_neg negative)
      (withinLimit_neg.mpr short) mirroredWidth padWidth
    rw [Int.neg_neg] at signed
    exact signed.symm
  case zero =>
    intro zero
    rw [zero]
    exact ⟨rfl, rfl⟩
  case long =>
    intro long
    have alsoLong : ¬ WithinLimit (-quotient) := mt withinLimit_neg.mp long
    exact ⟨paddedInteger_of_long long padWidth, paddedInteger_of_long alsoLong mirroredWidth⟩

/-- Masses and power outputs are divided towards zero, for values and divisors of either sign. -/
theorem quotient_cut_off_towards_zero (value : Int) {divisor : Int} (divides : divisor ≠ 0) :
    DividedTowardsZero value divisor := by
  have cut := cutOff_truncatedQuotient value divides
  have opposite := truncatedQuotient_neg value divides
  constructor
  case cut => exact cut
  case only => exact fun quotient alsoCut => alsoCut.unique cut
  case opposite => exact opposite
  case shown => exact fun element snapshot padWidth shows => shows.shown divides
  case mirrored =>
    intro element snapshot padWidth other otherSnapshot otherWidth shows alsoShows
    rw [shows.shown divides, alsoShows.shown divides, opposite]
    exact showsOpposites _ padWidth otherWidth
  case monotone =>
    intro positive larger le
    exact cut.le_of_le (cutOff_truncatedQuotient larger divides) positive le

/-- A mass of some tonnes and a part, and the opposite value as a power output. -/
theorem opposite_mass_and_power_output :
    let snapshot : Snapshot := { totalMassKg := 2999, powerRaw := -2999 }
    (1000 : Int) ≠ 0 ∧ truncatedQuotient 2999 1000 = 2 ∧ DividedTowardsZero 2999 1000 ∧
      Display.element snapshot (.mass none false) = .ok "2".toList ∧
      Display.element snapshot (.power 1000 (some 5)) = .ok "   -2".toList := by
  intro snapshot
  have divides : (1000 : Int) ≠ 0 := by decide
  have quotient : truncatedQuotient 2999 1000 = 2 := by decide
  have divided := quotient_cut_off_towards_zero 2999 divides
  have opposites := divided.mirrored _ _ _ _ _ _ (.mass none false snapshot)
    (.power 1000 (some 5) snapshot)
  rw [quotient] at opposites
  have shown := opposites.positive (by decide) (by decide)
  exact ⟨divides, quotient, divided, shown.1, shown.2⟩

/-- The opposite of a negative value does not show the text of that value after a minus sign: the
minus sign goes away. -/
theorem minus_sign_not_doubled :
    let shown (value : Int) := Display.element { powerRaw := value } (.power 1 none)
    shown (-3) = .ok "-3".toList ∧ shown (-(-3)) = .ok "3".toList ∧
      ¬ ∀ (value : Int) (text : Text), truncatedQuotient value 1 ≠ 0 →
        shown value = .ok text → shown (-value) = .ok ('-' :: text) := by
  intro shown
  refine ⟨rfl, rfl, ?_⟩
  intro always
  have doubled := always (-3) "-3".toList (by decide) rfl
  cases doubled

end Display
end Wallboard
