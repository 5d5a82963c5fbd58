import Mathlib.Algebra.Order.Floor.Semifield
import Mathlib.Algebra.Order.Round
import Mathlib.Data.Rat.Floor
import Mathlib.Tactic.Linarith
import Wallboard.Proofs.Display.Precision
import Wallboard.Proofs.Number.Written

/-!
Amounts as numbers. A coordinate is shown as the number that its text writes, rounded to the places
with halves away from zero; reading the amount gives that number back, and larger coordinates never
show smaller amounts.
-/
namespace Wallboard.Display.Currency

open Integer

/-- A number rounded to some places after the point, a half away from zero. -/
def roundedAway (places : Nat) (number : ℚ) : ℚ :=
  ((if number < 0 then -round (-number * 10 ^ places) else round (number * 10 ^ places) : ℤ) : ℚ) /
    10 ^ places

example : roundedAway 2 (-1 / 8) = -13 / 100 := by decide +kernel

/-- Digits with a comma before every group of three, counted from the right. -/
inductive Grouped : Text → Text → Prop
  | single {digits : Text} (filled : digits ≠ []) (short : digits.length ≤ 3) :
      Grouped digits digits
  | comma {front group text : Text} (grouped : Grouped front text) (three : group.length = 3) :
      Grouped (front ++ group) (text ++ ',' :: group)

/-- The text of an amount: a dollar sign, the digits of the whole part of the absolute amount in
groups and, unless there are no places, a point and as many digits as places; all of it in
parentheses exactly if the amount is negative. -/
def Shows (places : Nat) (amount : ℚ) (text : Text) : Prop :=
  ∃ whole fraction : Text,
    Grouped (digits ⌊|amount|⌋₊) whole ∧
      fraction.length = places ∧ (∀ char ∈ fraction, char.isDigit = true) ∧
      (value fraction : ℚ) / 10 ^ places = Int.fract |amount| ∧
      let body := '$' :: whole ++ (if places = 0 then [] else '.' :: fraction)
      text = if amount < 0 then '(' :: body ++ [')'] else body

def readDollars? : Text → Option ℚ
  | '$' :: rest =>
      let whole := (Text.cut '.' rest).1.filter fun char => char != ','
      let fraction := (Text.cut '.' rest).2.getD []
      if (whole ++ fraction).all Char.isDigit then
        some (value (whole ++ fraction) / 10 ^ fraction.length)
      else none
  | _ => none

/-- The number that an amount in dollars stands for, negative if it is in parentheses. -/
def read? : Text → Option ℚ
  | '(' :: rest =>
      if rest.getLast? = some ')' then (readDollars? rest.dropLast).map fun number => -number
      else none
  | text => readDollars? text

variable {places : Nat} {amount : ℚ} {whole digits text : Text}

section Rounding

theorem round_le_round {left right : ℚ} (le : left ≤ right) : round left ≤ round right := by
  rw [round_eq, round_eq]
  exact Int.floor_le_floor (by linarith)

theorem round_nonneg {number : ℚ} (nonneg : 0 ≤ number) : 0 ≤ round number := by
  have zero : round (0 : ℚ) = 0 := round_zero
  rw [← zero]
  exact round_le_round nonneg

theorem roundedAway_mono (places : Nat) {left right : ℚ} (le : left ≤ right) :
    roundedAway places left ≤ roundedAway places right := by
  have unit : (0 : ℚ) < 10 ^ places := by positivity
  unfold roundedAway
  apply div_le_div_of_nonneg_right _ unit.le
  rw [Int.cast_le]
  split
  · split
    · apply neg_le_neg
      apply round_le_round
      exact mul_le_mul_of_nonneg_right (by linarith) unit.le
    · have lower : 0 ≤ round (-left * 10 ^ places) := round_nonneg (by nlinarith)
      have upper : 0 ≤ round (right * 10 ^ places) := round_nonneg (by nlinarith)
      linarith
  · split
    · linarith
    · apply round_le_round
      exact mul_le_mul_of_nonneg_right le unit.le

theorem roundedQuotient_up {dividend divisor : Nat} (positive : 0 < divisor) :
    (roundedQuotient .up dividend divisor : ℤ) = round ((dividend : ℚ) / divisor) := by
  have parts := Nat.div_add_mod dividend divisor
  have rest := Nat.mod_lt dividend positive
  have bounds : 2 * (divisor * roundedQuotient .up dividend divisor) ≤ 2 * dividend + divisor ∧
      2 * dividend < 2 * (divisor * roundedQuotient .up dividend divisor) + divisor := by
    unfold roundedQuotient
    dsimp only
    split
    · omega
    · split
      · rw [Nat.mul_add]
        omega
      · rw [Nat.mul_add]
        omega
  have unit : (0 : ℚ) < divisor := by exact_mod_cast positive
  have lower : (2 * (divisor * roundedQuotient .up dividend divisor) : ℚ) ≤
      2 * dividend + divisor := by exact_mod_cast bounds.1
  have upper : (2 * dividend : ℚ) <
      2 * (divisor * roundedQuotient .up dividend divisor) + divisor := by exact_mod_cast bounds.2
  symm
  rw [round_eq, Int.floor_eq_iff, div_add_div _ _ unit.ne' two_ne_zero, Int.cast_natCast]
  constructor
  · rw [le_div_iff₀ (by positivity)]
    linarith
  · rw [div_lt_iff₀ (by positivity)]
    linarith

theorem roundedUnits_eq (decimal : Decimal) (places : Nat) :
    (roundedUnits decimal places : ℤ) =
      round ((decimal.coefficient * 10 ^ decimal.exponent : ℚ) * 10 ^ places) := by
  have divides : 0 < Nat.pow 10 (-(decimal.exponent + places)).toNat := Nat.pow_pos (by decide)
  rw [roundedUnits, roundedQuotient_up divides]
  congr 1
  calc
    ((decimal.coefficient * Nat.pow 10 (decimal.exponent + places).toNat : Nat) : ℚ) /
          (Nat.pow 10 (-(decimal.exponent + places)).toNat : Nat)
        = decimal.coefficient * ((10 : ℚ) ^ (decimal.exponent + places).toNat /
          10 ^ (-(decimal.exponent + places)).toNat) := by
      rw [Nat.pow_eq, Nat.pow_eq]
      push_cast
      rw [mul_div_assoc]
    _ = decimal.coefficient * (10 ^ decimal.exponent * 10 ^ places) := by
      rw [zpow_toNat_div, zpow_add₀ (by norm_num), zpow_natCast]
    _ = decimal.coefficient * 10 ^ decimal.exponent * 10 ^ places := (mul_assoc _ _ _).symm

theorem roundedAway_number (decimal : Decimal) (places : Nat) :
    roundedAway places decimal.number =
      (if decimal.negative then -(roundedUnits decimal places : ℚ)
        else roundedUnits decimal places) / 10 ^ places := by
  have size : (0 : ℚ) ≤ decimal.coefficient * 10 ^ decimal.exponent :=
    mul_nonneg (Nat.cast_nonneg _) (zpow_nonneg (by norm_num) _)
  have units := roundedUnits_eq decimal places
  unfold roundedAway
  congr 1
  cases sign : decimal.negative with
  | false =>
      have number : decimal.number = decimal.coefficient * 10 ^ decimal.exponent := by
        simp [Decimal.number, sign]
      rw [number, if_neg (not_lt.mpr size), ← units]
      simp
  | true =>
      have number : decimal.number = -(decimal.coefficient * 10 ^ decimal.exponent) := by
        simp [Decimal.number, sign]
      rw [number, neg_neg]
      split
      · rw [← units]
        simp
      · -- Only zero is neither negative nor positive, and zero units have no sign.
        have zero : (decimal.coefficient * 10 ^ decimal.exponent : ℚ) = 0 := by linarith
        rw [zero, zero_mul, round_zero] at units
        have none : roundedUnits decimal places = 0 := by exact_mod_cast units
        rw [zero, none]
        simp

theorem abs_roundedAway_number (decimal : Decimal) (places : Nat) :
    |roundedAway places decimal.number| = roundedUnits decimal places / 10 ^ places := by
  have unit : (0 : ℚ) < 10 ^ places := by positivity
  have nonneg : (0 : ℚ) ≤ roundedUnits decimal places := Nat.cast_nonneg _
  rw [roundedAway_number, abs_div, abs_of_pos unit]
  congr 1
  split
  · rw [abs_neg, abs_of_nonneg nonneg]
  · rw [abs_of_nonneg nonneg]

theorem roundedAway_number_neg_iff (decimal : Decimal) (places : Nat) :
    roundedAway places decimal.number < 0 ↔
      (decimal.negative && roundedUnits decimal places != 0) = true := by
  have unit : (0 : ℚ) < 10 ^ places := by positivity
  rw [roundedAway_number, div_lt_iff₀ unit, zero_mul]
  cases decimal.negative with
  | false => simp
  | true => simp [Nat.pos_iff_ne_zero]

end Rounding

section Grouping

theorem grouped_reverse_groupReversed (reversed : Text) (filled : reversed ≠ []) :
    Grouped reversed.reverse (groupReversed reversed).reverse := by
  induction reversed using groupReversed.induct with
  | case1 first second third fourth rest ih =>
      have front := ih (List.cons_ne_nil fourth rest)
      have three : [third, second, first].length = 3 := rfl
      have grouped := Grouped.comma front three
      simpa [groupReversed] using grouped
  | case2 short few =>
      have same : groupReversed short = short := by
        unfold groupReversed
        split
        · rename_i a b c d rest
          exact absurd rfl (few a b c d rest)
        · rfl
      rw [same]
      apply Grouped.single
      · simpa using filled
      · rw [List.length_reverse]
        by_contra long
        match short with
        | a :: b :: c :: d :: rest => exact few a b c d rest rfl
        | [] | [_] | [_, _] | [_, _, _] => simp at long

theorem grouped_grouped (filled : digits ≠ []) : Grouped digits (grouped digits) := by
  have reversed := grouped_reverse_groupReversed digits.reverse (by simpa using filled)
  rwa [List.reverse_reverse] at reversed

theorem filter_digits (numeric : ∀ char ∈ digits, char.isDigit = true) :
    digits.filter (fun char => char != ',') = digits := by
  rw [List.filter_eq_self]
  intro char member
  rw [bne_iff_ne]
  rintro rfl
  cases numeric ',' member

theorem Grouped.filter (grouped : Grouped digits whole)
    (numeric : ∀ char ∈ digits, char.isDigit = true) :
    whole.filter (fun char => char != ',') = digits := by
  induction grouped with
  | single filled short => exact filter_digits numeric
  | comma grouped three ih =>
      have front := ih fun char member => numeric char (List.mem_append_left _ member)
      have back := filter_digits fun char member => numeric char (List.mem_append_right _ member)
      rw [List.filter_append, List.filter_cons_of_neg (by decide), front, back]

theorem Grouped.mem (grouped : Grouped digits whole) {char : Char} (member : char ∈ whole) :
    char = ',' ∨ char ∈ digits := by
  induction grouped with
  | single filled short => exact .inr member
  | comma grouped three ih =>
      rcases List.mem_append.mp member with front | back
      · rcases ih front with mark | digit
        · exact .inl mark
        · exact .inr (List.mem_append_left _ digit)
      · rcases List.mem_cons.mp back with mark | digit
        · exact .inl mark
        · exact .inr (List.mem_append_right _ digit)

end Grouping

section Reading

theorem readDollars?_of_grouped {fraction : Text} (grouped : Grouped digits whole)
    (numeric : ∀ char ∈ digits, char.isDigit = true)
    (alsoNumeric : ∀ char ∈ fraction, char.isDigit = true) :
    readDollars? ('$' :: whole ++ (if fraction.length = 0 then [] else '.' :: fraction)) =
      some ((value digits : ℚ) + value fraction / 10 ^ fraction.length) := by
  have point : '.' ∉ whole := by
    intro member
    rcases grouped.mem member with mark | digit
    · cases mark
    · cases numeric '.' digit
  have cut : Text.cut '.' (whole ++ (if fraction.length = 0 then [] else '.' :: fraction)) =
      (whole, if fraction.length = 0 then none else some fraction) := by
    split
    · rw [List.append_nil, Text.cut_eq_self_of_not_mem point]
    · rw [Text.cut_append point]
  have after : (if fraction.length = 0 then none else some fraction).getD [] = fraction := by
    split
    · rename_i none
      exact (List.eq_nil_of_length_eq_zero none).symm
    · rfl
  have all : (digits ++ fraction).all Char.isDigit = true :=
    List.all_eq_true.mpr (List.forall_mem_append.mpr ⟨numeric, alsoNumeric⟩)
  rw [List.cons_append, readDollars?, cut]
  simp only [grouped.filter numeric, after, all, if_true]
  rw [value_append_run]
  push_cast
  congr 1
  field_simp

theorem Shows.read? (shown : Shows places amount text) : read? text = some amount := by
  obtain ⟨whole, fraction, grouped, counted, numeric, part, rfl⟩ := shown
  have body := readDollars?_of_grouped grouped (fun char => isDigit_of_mem_digits) numeric
  have total : (value (Integer.digits ⌊|amount|⌋₊) : ℚ) + value fraction / 10 ^ fraction.length =
      |amount| := by
    rw [value_digits, counted, part, natCast_floor_eq_intCast_floor (abs_nonneg amount)]
    exact Int.floor_add_fract |amount|
  rw [total, counted] at body
  split
  · rename_i negative
    rw [List.cons_append, Currency.read?, List.getLast?_concat, if_pos rfl, List.dropLast_concat,
      body, Option.map_some, abs_of_neg negative, neg_neg]
  · rename_i nonneg
    have dollars : Currency.read? ('$' :: whole ++ if places = 0 then [] else '.' :: fraction) =
        readDollars? ('$' :: whole ++ if places = 0 then [] else '.' :: fraction) := rfl
    rw [dollars, body, abs_of_nonneg (not_lt.mp nonneg)]

end Reading

theorem dollars_eq (units places : Nat) :
    ∃ fraction : Text, fraction.length = places ∧ (∀ char ∈ fraction, char.isDigit = true) ∧
      value fraction = units % 10 ^ places ∧
      dollars units places = '$' :: Currency.grouped (Integer.digits (units / 10 ^ places)) ++
        (if places = 0 then [] else '.' :: fraction) := by
  cases places with
  | zero => exact ⟨[], rfl, by simp, by simp [value, Nat.mod_one], rfl⟩
  | succ places =>
      have fits : (Integer.digits (units % 10 ^ (places + 1))).length ≤ places + 1 :=
        (length_digits_le_iff (Nat.succ_pos places)).mpr (Nat.mod_lt _ (Nat.pow_pos (by decide)))
      refine ⟨List.replicate (places + 1 - (Integer.digits (units % 10 ^ (places + 1))).length) '0' ++
        Integer.digits (units % 10 ^ (places + 1)), ?_, ?_, ?_, rfl⟩
      · rw [List.length_append, List.length_replicate]
        omega
      · apply isDigit_of_mem_zeros_append
        intro char digit
        exact isDigit_of_mem_digits digit
      · rw [value_zeros_append, value_digits]

theorem shows_amount (decimal : Decimal) (places : Nat) :
    Shows places (roundedAway places decimal.number) (Currency.amount decimal places) := by
  have size := abs_roundedAway_number decimal places
  have sign := roundedAway_number_neg_iff decimal places
  obtain ⟨fraction, counted, numeric, part, body⟩ := dollars_eq (roundedUnits decimal places) places
  have unit : ((10 ^ places : Nat) : ℚ) = 10 ^ places := by push_cast; rfl
  refine ⟨Currency.grouped (Integer.digits (roundedUnits decimal places / 10 ^ places)), fraction,
    ?_, counted, numeric, ?_, ?_⟩
  · rw [size, ← unit, Nat.floor_div_eq_div]
    exact grouped_grouped (digits_ne_nil _)
  · rw [size, ← unit, Int.fract_div_natCast_eq_div_natCast_mod, part]
  · rw [← body]
    unfold Currency.amount
    dsimp only
    split
    · rename_i negative
      rw [if_pos (sign.mpr negative)]
    · rename_i nonneg
      rw [if_neg fun negative => nonneg (sign.mp negative)]

variable {double : Binary64} {decimals : Int}

theorem text_shows (finite : double.isFinite = true) (natural : 0 ≤ decimals)
    (within : precision double decimals ≤ precisionLimit) :
    ∃ decimal shown, Decimal.ofText? double.text = some decimal ∧
      Currency.text double decimals = .ok shown ∧
      Shows decimals.toNat (roundedAway decimals.toNat decimal.number) shown := by
  obtain ⟨decimal, written, same⟩ := Binary64.ofText?_text finite
  have displayed : Currency.text double decimals =
      .ok (Currency.amount double.shortest decimals.toNat) := by
    rw [text_of_precise natural within, if_pos finite]
  refine ⟨decimal, _, written, displayed, ?_⟩
  rw [same]
  exact shows_amount double.shortest decimals.toNat

/-- A finite coordinate whose precision is within the limit is shown as the number that its text
writes, rounded to the places with halves away from zero. So the amount is read back as exactly that
number, and a coordinate that is no less shows an amount that is no less. -/
theorem text_shows_rounded_number {double : Binary64} {decimals : Int}
    (finite : double.isFinite = true) (natural : 0 ≤ decimals)
    (within : precision double decimals ≤ precisionLimit) :
    ∃ decimal shown,
      Decimal.ofText? double.text = some decimal ∧ Currency.text double decimals = .ok shown ∧
      Shows decimals.toNat (roundedAway decimals.toNat decimal.number) shown ∧
      read? shown = some (roundedAway decimals.toNat decimal.number) ∧
      ∀ (other : Binary64) (larger : Decimal), other.isFinite = true →
        precision other decimals ≤ precisionLimit →
        Decimal.ofText? other.text = some larger → decimal.number ≤ larger.number →
          ∃ otherShown otherAmount, Currency.text other decimals = .ok otherShown ∧
            read? otherShown = some otherAmount ∧
            roundedAway decimals.toNat decimal.number ≤ otherAmount := by
  obtain ⟨decimal, shown, written, displayed, shows⟩ := text_shows finite natural within
  refine ⟨decimal, shown, written, displayed, shows, shows.read?, ?_⟩
  intro other larger alsoFinite alsoWithin alsoWritten le
  obtain ⟨found, otherShown, foundWritten, otherDisplayed, otherShows⟩ :=
    text_shows alsoFinite natural alsoWithin
  obtain rfl : larger = found := Option.some.inj (alsoWritten.symm.trans foundWritten)
  exact ⟨otherShown, _, otherDisplayed, otherShows.read?, roundedAway_mono _ le⟩

/-- A tie that is carried into a new leading digit and with it into a new group, and a negative
coordinate that is rounded to zero. -/
theorem shown_carry_and_vanishing :
    let double : Binary64 := .ofDecimal ⟨true, 99999995, -2⟩
    let other : Binary64 := .ofDecimal ⟨true, 4, -3⟩
    double.isFinite = true ∧ other.isFinite = true ∧ precision double 1 ≤ precisionLimit ∧
      Currency.text double 1 = .ok "($1,000,000.0)".toList ∧
      read? "($1,000,000.0)".toList = some (-1000000) ∧
      Currency.text other 1 = .ok "$0.0".toList ∧
      ∃ amount, read? "$0.0".toList = some amount ∧ -1000000 ≤ amount := by
  intro double other
  have finite : double.isFinite = true := by decide +kernel
  have alsoFinite : other.isFinite = true := by decide +kernel
  have within : precision double 1 ≤ precisionLimit := by decide +kernel
  have alsoWithin : precision other 1 ≤ precisionLimit := by decide +kernel
  have carried : Currency.text double 1 = .ok "($1,000,000.0)".toList := by decide +kernel
  have vanished : Currency.text other 1 = .ok "$0.0".toList := by decide +kernel
  have alsoWritten : Decimal.ofText? other.text = some ⟨true, 4, -3⟩ := by decide +kernel
  obtain ⟨decimal, shown, written, displayed, _, read, larger⟩ :=
    text_shows_rounded_number finite (by decide) within
  have own : Decimal.ofText? double.text = some ⟨true, 99999995, -2⟩ := by decide +kernel
  obtain rfl : ⟨true, 99999995, -2⟩ = decimal := Option.some.inj (own.symm.trans written)
  obtain rfl : "($1,000,000.0)".toList = shown := Except.ok.inj (carried.symm.trans displayed)
  have rounded : roundedAway (1 : Int).toNat (Decimal.number ⟨true, 99999995, -2⟩) = -1000000 := by
    decide +kernel
  rw [rounded] at read larger
  obtain ⟨otherShown, amount, alsoDisplayed, alsoRead, le⟩ :=
    larger other ⟨true, 4, -3⟩ alsoFinite alsoWithin alsoWritten (by decide +kernel)
  obtain rfl : "$0.0".toList = otherShown := Except.ok.inj (vanished.symm.trans alsoDisplayed)
  exact ⟨finite, alsoFinite, within, carried, read, vanished, amount, alsoRead, le⟩

end Wallboard.Display.Currency
