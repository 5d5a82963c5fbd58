import Wallboard.Display.Element
import Wallboard.Proofs.Number.Decimal
import Wallboard.Proofs.Number.Truncation

namespace Wallboard

namespace Integer

theorem Numeral.ofText?_text (value : Int) :
    ∃ numeral, ofText? (Integer.text value) = some numeral ∧ numeral.value = value := by
  have read : magnitude? (Integer.digits value.natAbs) = some (Integer.digits value.natAbs) := by
    apply magnitude?_eq_some_iff.mpr
    exact ⟨rfl, digits_ne_nil _, fun char => isDigit_of_mem_digits⟩
  by_cases negative : value < 0
  · refine ⟨⟨true, Integer.digits value.natAbs⟩, ?_, ?_⟩
    · simp [Integer.text, negative, ofText?, read]
    · simp only [Numeral.value, value_digits, if_true]
      omega
  · refine ⟨⟨false, Integer.digits value.natAbs⟩, ?_, ?_⟩
    · rw [text_of_nonneg (Int.not_lt.mp negative)]
      exact ofText?_of_digits (digits_ne_nil _) fun char => isDigit_of_mem_digits
    · simp only [Numeral.value, value_digits]
      exact Int.natAbs_of_nonneg (Int.not_lt.mp negative)

theorem text_injective {first second : Int} (same : text first = text second) :
    first = second := by
  obtain ⟨numeral, written, value⟩ := Numeral.ofText?_text first
  obtain ⟨other, alsoWritten, otherValue⟩ := Numeral.ofText?_text second
  rw [same, alsoWritten] at written
  rw [← value, ← otherValue, Option.some.inj written]

def isNumeric (char : Char) : Bool := char == '-' || char.isDigit

theorem isNumeric_of_mem_text {value : Int} {char : Char} (member : char ∈ text value) :
    isNumeric char = true := by
  have numeric (digit : char ∈ digits value.natAbs) : isNumeric char = true := by
    rw [isNumeric, isDigit_of_mem_digits digit, Bool.or_true]
  unfold text at member
  split at member
  · rcases List.mem_cons.mp member with rfl | digit
    · rfl
    · exact numeric digit
  · exact numeric member

theorem WithinLimit.tdiv {value : Int} (short : WithinLimit value) (divisor : Int) :
    WithinLimit (value.tdiv divisor) := by
  have limit : 0 < digitLimit := by decide
  unfold WithinLimit at short ⊢
  rw [length_digits_le_iff limit] at short ⊢
  exact Nat.lt_of_le_of_lt (Int.natAbs_tdiv_le_natAbs value divisor) short

end Integer

namespace Scale

def factor : Scale → Int
  | units => 1
  | thousands => 1000
  | millions => 1000000

def suffix : Scale → Text
  | units => []
  | thousands => ['K']
  | millions => ['M']

def unit (scale : Scale) (amount : Int) : Scale := if scale.factor < amount then scale else units

/-- An amount is counted in a scale: in single units up to the threshold of the scale, in its larger
units above it, and always by the number of whole ones. -/
structure Counts (scale : Scale) (amount count : Int) (unit : Scale) : Prop where
  thousands : unit = .thousands ↔ scale = .thousands ∧ 1000 < amount
  millions : unit = .millions ↔ scale = .millions ∧ 1000000 < amount
  lower : count * unit.factor ≤ amount
  upper : amount < (count + 1) * unit.factor
  filled : unit ≠ .units → 1 ≤ count

variable {scale unit other : Scale} {amount count larger more : Int}

theorem factor_pos (scale : Scale) : 0 < scale.factor := by cases scale <;> decide

theorem suffix_injective {first second : Scale} (same : first.suffix = second.suffix) :
    first = second := by
  cases first <;> cases second <;> first | rfl | cases same

theorem counts_units (small : scale = .units ∨ amount ≤ scale.factor) :
    Counts scale amount amount .units := by
  have below (named : scale ≠ .units) : ¬ scale.factor < amount := by
    apply Int.not_lt.mpr
    exact small.resolve_left named
  constructor
  case thousands =>
    apply iff_of_false (by decide)
    rintro ⟨rfl, large⟩
    exact below (by decide) large
  case millions =>
    apply iff_of_false (by decide)
    rintro ⟨rfl, large⟩
    exact below (by decide) large
  case lower => exact Int.le_of_eq (Int.mul_one amount)
  case upper =>
    rw [factor, Int.mul_one]
    exact Int.lt_succ amount
  case filled => exact fun named => absurd rfl named

theorem counts_large (named : scale ≠ .units) (large : scale.factor < amount) :
    Counts scale amount (amount.tdiv scale.factor) scale := by
  have positive := scale.factor_pos
  have floor : amount.tdiv scale.factor = amount / scale.factor :=
    Int.tdiv_eq_ediv_of_nonneg (by omega)
  rw [floor]
  constructor
  case thousands =>
    apply (and_iff_left_of_imp _).symm
    rintro rfl
    exact large
  case millions =>
    apply (and_iff_left_of_imp _).symm
    rintro rfl
    exact large
  case lower => exact Int.ediv_mul_le amount (Int.ne_of_gt positive)
  case upper => exact Int.lt_ediv_add_one_mul_self amount positive
  case filled =>
    intro _
    apply Int.le_ediv_of_mul_le positive
    omega

theorem counts_tdiv (scale : Scale) (amount : Int) :
    Counts scale amount (amount.tdiv (scale.unit amount).factor) (scale.unit amount) := by
  unfold Scale.unit
  split
  · rename_i large
    by_cases single : scale = .units
    · subst single
      rw [factor, Int.tdiv_one]
      exact counts_units (.inl rfl)
    · exact counts_large single large
  · rename_i small
    rw [factor, Int.tdiv_one]
    exact counts_units (.inr (Int.not_lt.mp small))

namespace Counts

theorem of_large (counts : Counts scale amount count unit) (named : unit ≠ .units) :
    unit = scale ∧ scale.factor < amount := by
  cases unit with
  | units => exact absurd rfl named
  | thousands =>
      have chosen := counts.thousands.mp rfl
      rw [chosen.1]
      exact ⟨rfl, chosen.2⟩
  | millions =>
      have chosen := counts.millions.mp rfl
      rw [chosen.1]
      exact ⟨rfl, chosen.2⟩

theorem of_units (counts : Counts scale amount count .units) (named : scale ≠ .units) :
    amount ≤ scale.factor := by
  apply Int.not_lt.mp
  intro large
  cases scale with
  | units => exact named rfl
  | thousands => cases counts.thousands.mpr ⟨rfl, large⟩
  | millions => cases counts.millions.mpr ⟨rfl, large⟩

theorem le_of_le (counts : Counts scale amount count unit)
    (alsoCounts : Counts scale larger more other) (le : amount ≤ larger) :
    count * unit.factor ≤ more * other.factor := by
  by_cases single : other = .units
  · subst single
    have whole : larger ≤ more * factor .units := by
      have upper := alsoCounts.upper
      rw [factor, Int.mul_one] at upper ⊢
      exact Int.lt_add_one_iff.mp upper
    exact Int.le_trans counts.lower (Int.le_trans le whole)
  · obtain ⟨rfl, large⟩ := alsoCounts.of_large single
    have positive := other.factor_pos
    have filled := alsoCounts.filled single
    by_cases alsoSingle : unit = .units
    · subst alsoSingle
      calc
        count * factor .units ≤ amount := counts.lower
        _ ≤ other.factor := counts.of_units single
        _ = 1 * other.factor := (Int.one_mul _).symm
        _ ≤ more * other.factor := Int.mul_le_mul_of_nonneg_right filled (Int.le_of_lt positive)
    · obtain ⟨rfl, _⟩ := counts.of_large alsoSingle
      have between : count * unit.factor < (more + 1) * unit.factor :=
        Int.lt_of_le_of_lt (Int.le_trans counts.lower le) alsoCounts.upper
      have fewer : count < more + 1 := Int.lt_of_mul_lt_mul_right between (Int.le_of_lt positive)
      exact Int.mul_le_mul_of_nonneg_right (Int.lt_add_one_iff.mp fewer) (Int.le_of_lt positive)

end Counts
end Scale

namespace Display

open Integer

variable {value : Int} {padWidth : Option Int} {text : Text}

theorem printed_of_short (short : WithinLimit value) :
    printed value = .ok (Integer.text value) := by
  unfold WithinLimit at short
  rw [printed, print?, if_pos short]

theorem eq_text_of_printed (shown : printed value = .ok text) : text = Integer.text value := by
  unfold printed print? at shown
  split at shown
  · rename_i found
    split at found
    · cases found
      cases shown
      rfl
    · cases found
  · cases shown

theorem scaled_eq (value : Int) (padWidth : Option Int) (scale : Scale) :
    scaled value padWidth scale =
      (paddedInteger (value.tdiv (scale.unit value).factor) padWidth).map
        (· ++ (scale.unit value).suffix) := by
  have single : paddedInteger value padWidth =
      (paddedInteger (value.tdiv (Scale.factor .units)) padWidth).map
        (· ++ Scale.suffix .units) := by
    rw [Scale.factor, Int.tdiv_one]
    cases paddedInteger value padWidth <;> simp [Except.map, Scale.suffix]
  have lettered (count : Int) (letter : Char) :
      (do let text ← paddedInteger count padWidth; .ok (text ++ [letter])) =
        (paddedInteger count padWidth).map (· ++ [letter]) := by
    cases paddedInteger count padWidth <;> rfl
  simp only [scaled, truncatedQuotient_eq_tdiv]
  cases scale with
  | units => simpa [Scale.unit] using single
  | thousands =>
      by_cases large : 1000 < value
      · simpa [Scale.unit, Scale.factor, Scale.suffix, large] using lettered (value.tdiv 1000) 'K'
      · simpa [Scale.unit, Scale.factor, large] using single
  | millions =>
      by_cases large : 1000000 < value
      · simpa [Scale.unit, Scale.factor, Scale.suffix, large] using
          lettered (value.tdiv 1000000) 'M'
      · simpa [Scale.unit, Scale.factor, large] using single

theorem paddedInteger_none (value : Int) : paddedInteger value none = printed value := by
  unfold paddedInteger padded
  cases printed value <;> rfl

theorem paddedInteger_of_short (short : WithinLimit value) (padWidth : Option Int) :
    paddedInteger value padWidth = padded (Integer.text value) padWidth := by
  rw [paddedInteger, printed_of_short short]
  rfl

theorem scaled_of_short (short : WithinLimit value) (scale : Scale) :
    scaled value none scale =
      .ok (Integer.text (value.tdiv (scale.unit value).factor) ++ (scale.unit value).suffix) := by
  rw [scaled_eq, paddedInteger_of_short (short.tdiv _)]
  rfl

theorem count_unique {first second : Int} {unit other : Scale}
    (same : Integer.text first ++ unit.suffix = Integer.text second ++ other.suffix) :
    first = second ∧ unit = other := by
  have kept (value : Int) (unit : Scale) :
      (Integer.text value ++ unit.suffix).filter isNumeric = Integer.text value := by
    have number : (Integer.text value).filter isNumeric = Integer.text value :=
      List.filter_eq_self.mpr fun char => isNumeric_of_mem_text
    have letter : unit.suffix.filter isNumeric = [] := by cases unit <;> rfl
    rw [List.filter_append, number, letter, List.append_nil]
  have equal : first = second := by
    apply text_injective
    rw [← kept first unit, same, kept]
  rw [equal] at same
  exact ⟨equal, Scale.suffix_injective (List.append_cancel_left same)⟩

theorem counts_of_scaled {scale unit : Scale} {count : Int}
    (shown : scaled value none scale = .ok (Integer.text count ++ unit.suffix)) :
    Scale.Counts scale value count unit := by
  have counted := Scale.counts_tdiv scale value
  rw [scaled_eq, paddedInteger_none] at shown
  cases number : printed (value.tdiv (scale.unit value).factor) with
  | error fault =>
      rw [number] at shown
      cases shown
  | ok written =>
      rw [number, eq_text_of_printed number] at shown
      have same := count_unique (Except.ok.inj shown)
      rwa [same.1, same.2] at counted

/-- The text of an amount that is not too long is a count and the letter of its unit, for items in
every scale and for tanks in thousands. It counts the whole units in the amount, and a larger amount
never shows less. -/
theorem amount_counted_in_whole_units (scale : Scale) {value : Int} (short : WithinLimit value) :
    ∃ count unit,
      scaled value none scale = .ok (Integer.text count ++ unit.suffix) ∧
      (∀ snapshot resourceKey, snapshot.quantity? resourceKey = some value →
        element snapshot (.itemCount resourceKey none scale) = scaled value none scale) ∧
      (∀ snapshot kind capacity, snapshot.tank? kind = some ⟨value, capacity⟩ →
        element snapshot (.gas kind none .absolute) = scaled value none .thousands) ∧
      Scale.Counts scale value count unit ∧
      ∀ (larger more : Int) (other : Scale), value ≤ larger →
        scaled larger none scale = .ok (Integer.text more ++ other.suffix) →
          count * unit.factor ≤ more * other.factor := by
  refine ⟨_, _, scaled_of_short short scale, ?_, ?_, Scale.counts_tdiv scale value, ?_⟩
  · intro snapshot resourceKey found
    simp only [element, found]
  · intro snapshot kind capacity found
    simp only [element, gas, found]
  · intro larger more other le shown
    exact (Scale.counts_tdiv scale value).le_of_le (counts_of_scaled shown) le

/-- The threshold itself, which is not folded yet, and the amount after it. -/
theorem counted_across_the_threshold :
    WithinLimit 1000 ∧ scaled 1000 none .thousands = .ok "1000".toList ∧
      scaled 1001 none .thousands = .ok "1K".toList ∧
      ∃ count unit, scaled 1000 none .thousands = .ok (Integer.text count ++ unit.suffix) ∧
        Scale.Counts .thousands 1000 count unit ∧
        count * unit.factor ≤ 1 * Scale.thousands.factor := by
  have short : WithinLimit 1000 := by decide
  have folded : scaled 1001 none .thousands = .ok "1K".toList := by decide +kernel
  obtain ⟨count, unit, shown, _, _, counted, larger⟩ :=
    amount_counted_in_whole_units .thousands short
  exact ⟨short, by decide +kernel, folded, count, unit, shown, counted,
    larger 1001 1 .thousands (by decide) folded⟩

example : scaled (-2500) none .thousands = .ok "-2500".toList := by decide +kernel

end Display
end Wallboard
