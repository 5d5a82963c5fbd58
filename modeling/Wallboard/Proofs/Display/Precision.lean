import Wallboard.Display.Currency
import Wallboard.Proofs.Number.Decimal

/-!
The precision that amounts are rounded with. It leaves room for every digit of the rounded amount,
also for the one that is carried into a new leading place, so that an amount has a text unless its
coordinate is not finite or the precision itself is too large.
-/
namespace Wallboard

theorem roundedQuotient_le (tie : Tie) (dividend divisor : Nat) :
    roundedQuotient tie dividend divisor ≤ dividend / divisor + 1 := by
  have parity := Nat.mod_lt (dividend / divisor) (by decide : 0 < 2)
  cases tie with
  | toEven => simp only [roundedQuotient]; split <;> (try split) <;> omega
  | up => simp only [roundedQuotient]; split <;> (try split) <;> omega

theorem roundedQuotient_one (tie : Tie) (dividend : Nat) :
    roundedQuotient tie dividend 1 = dividend := by
  simp [roundedQuotient, Nat.mod_one]

theorem Display.fitsWord_iff {value : Int} (natural : 0 ≤ value) :
    fitsWord value = true ↔ value ≤ 9223372036854775807 := by
  have bound : ((Nat.pow 2 63 : Nat) : Int) = 9223372036854775808 := rfl
  rw [fitsWord, decide_eq_true_eq, bound]
  omega

namespace Display.Currency

open Integer

/-- At or before the last digit of the coefficient, zeros follow its digits. -/
theorem length_units_of_zeros (decimal : Decimal) {places zeros : Nat}
    (shifted : decimal.exponent + places = zeros) :
    (digits (roundedUnits decimal places)).length ≤ (digits decimal.coefficient).length + zeros := by
  have filled := length_digits_pos decimal.coefficient
  have units : roundedUnits decimal places = decimal.coefficient * Nat.pow 10 zeros := by
    simp only [roundedUnits, shifted, Int.toNat_natCast, Int.toNat_neg_natCast]
    exact roundedQuotient_one .up _
  rw [units, length_digits_le_iff (by omega)]
  calc
    decimal.coefficient * Nat.pow 10 zeros <
        Nat.pow 10 (digits decimal.coefficient).length * Nat.pow 10 zeros :=
      Nat.mul_lt_mul_of_pos_right (lt_pow_length_digits _) (Nat.pow_pos (by decide))
    _ = Nat.pow 10 ((digits decimal.coefficient).length + zeros) := (Nat.pow_add _ _ _).symm

/-- Where digits are cut off, one more digit may be carried in front of the ones that are left. -/
theorem length_units_of_cut (decimal : Decimal) {places cut : Nat}
    (shifted : decimal.exponent + places = -cut) :
    (digits (roundedUnits decimal places)).length ≤
      (digits decimal.coefficient).length - cut + 1 := by
  have units : roundedUnits decimal places ≤ decimal.coefficient / Nat.pow 10 cut + 1 := by
    simp only [roundedUnits, shifted, Int.toNat_neg_natCast, Int.neg_neg, Int.toNat_natCast]
    simpa using roundedQuotient_le .up decimal.coefficient (Nat.pow 10 cut)
  have kept : decimal.coefficient / Nat.pow 10 cut <
      Nat.pow 10 ((digits decimal.coefficient).length - cut) := by
    apply Nat.div_lt_of_lt_mul
    calc
      decimal.coefficient < Nat.pow 10 (digits decimal.coefficient).length :=
        lt_pow_length_digits _
      _ ≤ Nat.pow 10 (cut + ((digits decimal.coefficient).length - cut)) :=
        Nat.pow_le_pow_right (by decide) (by omega)
      _ = Nat.pow 10 cut * Nat.pow 10 ((digits decimal.coefficient).length - cut) :=
        Nat.pow_add _ _ _
  rw [length_digits_le_iff (by omega)]
  calc
    roundedUnits decimal places ≤ Nat.pow 10 ((digits decimal.coefficient).length - cut) :=
      Nat.le_trans units kept
    _ < Nat.pow 10 ((digits decimal.coefficient).length - cut + 1) :=
      Nat.pow_lt_pow_right (by decide) (Nat.lt_succ_self _)

theorem length_units_le (decimal : Decimal) (places : Nat) :
    ((digits (roundedUnits decimal places)).length : Int) ≤
      max 1 ((digits decimal.coefficient).length + decimal.exponent + places + 1) := by
  rcases Int.le_total 0 (decimal.exponent + places) with behind | before
  · obtain ⟨zeros, shifted⟩ := Int.eq_ofNat_of_zero_le behind
    have bound := length_units_of_zeros decimal shifted
    omega
  · obtain ⟨cut, shifted⟩ := Int.exists_eq_neg_ofNat before
    have bound := length_units_of_cut decimal shifted
    omega

theorem hasRoom_precision {double : Binary64} (finite : double.isFinite = true) (places : Nat) :
    hasRoom (precision double places) double.shortest places = true := by
  have bound := length_units_le double.shortest places
  rw [hasRoom, decide_eq_true_eq]
  by_cases zero : double.significand = 0
  · -- Zero counts as written with one place, but its only digit is a zero in any case.
    have nothing : double.shortest.coefficient = 0 := by simp [Binary64.shortest, zero]
    have units : roundedUnits double.shortest places = 0 := by
      simp [roundedUnits, nothing, roundedQuotient]
    have single : (digits 0).length = 1 := by decide
    rw [units, single, precision]
    omega
  · have order : leadingOrder double =
        (digits double.shortest.coefficient).length - 1 + double.shortest.exponent := by
      simp [leadingOrder, finite, zero]
    rw [precision, order]
    omega

variable {double : Binary64} {decimals : Int}

theorem text_of_too_precise (exceeded : precisionLimit < precision double decimals) :
    ∃ fault, text double decimals = .error fault := by
  unfold text
  by_cases word : fitsWord (precision double decimals) = true
  · exact ⟨.precisionTooLarge, by simp [word, exceeded]⟩
  · exact ⟨.precisionOutOfRange, by simp [word]⟩

theorem text_of_precise (natural : 0 ≤ decimals)
    (within : precision double decimals ≤ precisionLimit) :
    text double decimals =
      if double.isFinite then .ok (amount double.shortest decimals.toNat)
      else .error .invalidOperation := by
  have least : 28 ≤ precision double decimals := Int.le_max_left _ _
  have word : fitsWord (precision double decimals) = true := by
    rw [fitsWord_iff (by omega)]
    unfold precisionLimit at within
    omega
  have noLess : ¬ decimals < 0 := Int.not_lt.mpr natural
  have noMore : ¬ precisionLimit < precision double decimals := Int.not_lt.mpr within
  cases finite : double.isFinite with
  | false => simp [text, word, noLess, noMore, finite]
  | true =>
      have room := hasRoom_precision finite decimals.toNat
      rw [Int.toNat_of_nonneg natural] at room
      simp [text, word, noLess, noMore, finite, room]

theorem text_fails_iff (natural : 0 ≤ decimals) :
    (∃ fault, text double decimals = .error fault) ↔
      double.isFinite = false ∨ precisionLimit < precision double decimals := by
  rcases Int.lt_or_le precisionLimit (precision double decimals) with exceeded | within
  · exact ⟨fun _ => .inr exceeded, fun _ => text_of_too_precise exceeded⟩
  · have noMore : ¬ precisionLimit < precision double decimals := Int.not_lt.mpr within
    rw [text_of_precise natural within]
    cases double.isFinite <;> simp [noMore]

end Display.Currency
end Wallboard
