import Mathlib.Algebra.Order.Field.Rat
import Mathlib.Tactic.FieldSimp
import Mathlib.Tactic.Ring
import Wallboard.Number.Reading
import Wallboard.Number.Shortest
import Wallboard.Proofs.Number.Decimal
import Wallboard.Proofs.Text.Split

namespace Wallboard

def Decimal.number (decimal : Decimal) : ℚ :=
  (if decimal.negative then -1 else 1) * (decimal.coefficient * 10 ^ decimal.exponent)

theorem Decimal.number_unsigned (coefficient : Nat) (exponent : Int) :
    Decimal.number ⟨false, coefficient, exponent⟩ = coefficient * 10 ^ exponent := by
  simp [Decimal.number]

theorem zpow_toNat_div (base : ℚ) (exponent : Int) :
    base ^ exponent.toNat / base ^ (-exponent).toNat = base ^ exponent := by
  rcases Int.le_total 0 exponent with nonneg | nonpos
  · obtain ⟨power, rfl⟩ := Int.eq_ofNat_of_zero_le nonneg
    simp
  · obtain ⟨power, rfl⟩ := Int.exists_eq_neg_ofNat nonpos
    simp

/-- The decimal that a text writes: an optional minus sign before digits, among or beside which
there may be a point, and then maybe an exponent. -/
def Decimal.ofText? : Text → Option Decimal
  | '-' :: rest => (Binary64.unsigned? rest).map fun decimal => { decimal with negative := true }
  | rest => Binary64.unsigned? rest

namespace Integer

theorem value_append_run (front back : Text) :
    value (front ++ back) = value front * 10 ^ back.length + value back := by
  induction back using List.reverseRecOn with
  | nil => simp [value]
  | append_singleton back last ih =>
      rw [← List.append_assoc, value_append, value_append, ih, List.length_append,
        List.length_singleton, Nat.pow_succ]
      ring

theorem value_zeros (count : Nat) : value (List.replicate count '0') = 0 := by
  induction count with
  | zero => rfl
  | succ count ih =>
      have zero : value ['0'] = 0 := rfl
      rw [List.replicate_succ', value_append_run, ih, zero, Nat.zero_mul]

theorem isDigit_of_mem_zeros (count : Nat) : ∀ char ∈ List.replicate count '0', char.isDigit = true := by
  intro char member
  rw [List.eq_of_mem_replicate member]
  rfl

theorem isDigit_of_mem_zeros_append {digits : Text}
    (numeric : ∀ char ∈ digits, char.isDigit = true) (count : Nat) :
    ∀ char ∈ List.replicate count '0' ++ digits, char.isDigit = true :=
  List.forall_mem_append.mpr ⟨isDigit_of_mem_zeros count, numeric⟩

theorem value_zeros_append (count : Nat) (digits : Text) :
    value (List.replicate count '0' ++ digits) = value digits := by
  rw [value_append_run, value_zeros, Nat.zero_mul, Nat.zero_add]

theorem value_append_zeros (digits : Text) (count : Nat) :
    value (digits ++ List.replicate count '0') = value digits * 10 ^ count := by
  rw [value_append_run, value_zeros, List.length_replicate, Nat.add_zero]

end Integer

namespace Binary64

open Integer

variable {text whole fraction digits : Text} {mantissa : Mantissa} {order : Int}

theorem not_isExponentMark_of_isDigit {char : Char} (digit : char.isDigit = true) :
    isExponentMark char = false := by
  unfold isExponentMark
  rw [Bool.or_eq_false_iff, beq_eq_false_iff_ne, beq_eq_false_iff_ne]
  constructor
  · rintro rfl
    cases digit
  · rintro rfl
    cases digit

theorem not_mem_point (numeric : ∀ char ∈ digits, char.isDigit = true) : '.' ∉ digits := by
  intro member
  cases numeric '.' member

theorem mantissa?_of_digits (filled : digits ≠ [])
    (numeric : ∀ char ∈ digits, char.isDigit = true) : mantissa? digits = some ⟨digits, []⟩ := by
  have uncut := Text.cut_eq_self_of_not_mem (not_mem_point numeric)
  have all : digits.all Char.isDigit = true := List.all_eq_true.mpr numeric
  have some : digits.isEmpty = false := List.isEmpty_eq_false_iff.mpr filled
  simp [mantissa?, uncut, all, some]

theorem mantissa?_of_point (filled : whole ≠ [])
    (numeric : ∀ char ∈ whole ++ fraction, char.isDigit = true) :
    mantissa? (whole ++ '.' :: fraction) = some ⟨whole, fraction⟩ := by
  have front : '.' ∉ whole := not_mem_point fun char member =>
    numeric char (List.mem_append_left fraction member)
  have all : (whole ++ fraction).all Char.isDigit = true := List.all_eq_true.mpr numeric
  simp only [mantissa?, Text.cut_append front, Option.getD_some, all, Bool.true_and]
  simp [filled]

theorem unmarked_of_point (numeric : ∀ char ∈ whole ++ fraction, char.isDigit = true) :
    ∀ char ∈ whole ++ '.' :: fraction, isExponentMark char = false := by
  intro char member
  rcases List.mem_append.mp member with front | back
  · exact not_isExponentMark_of_isDigit (numeric char (List.mem_append_left fraction front))
  · rcases List.mem_cons.mp back with rfl | back
    · rfl
    · exact not_isExponentMark_of_isDigit (numeric char (List.mem_append_right whole back))

theorem span_unmarked (unmarked : ∀ char ∈ text, isExponentMark char = false) {rest : Text}
    (boundary : ∀ char ∈ rest.head?, isExponentMark char = true) :
    (text ++ rest).takeWhile (fun char => !isExponentMark char) = text ∧
      (text ++ rest).dropWhile (fun char => !isExponentMark char) = rest := by
  have inside : ∀ char ∈ text, (!isExponentMark char) = true := by
    intro char member
    rw [unmarked char member]
    rfl
  rw [List.takeWhile_append_of_pos inside, List.dropWhile_append_of_pos inside]
  cases rest with
  | nil => simp
  | cons mark after =>
      have stop : isExponentMark mark = true := boundary mark rfl
      simp [stop]

theorem unsigned?_of_mantissa (read : mantissa? text = some mantissa)
    (unmarked : ∀ char ∈ text, isExponentMark char = false) :
    unsigned? text = some ⟨false, value (mantissa.whole ++ mantissa.fraction),
      -mantissa.fraction.length⟩ := by
  have parts := @span_unmarked text unmarked [] (by simp)
  rw [List.append_nil] at parts
  simp [unsigned?, parts, read]

theorem exponentText_shape (order : Int) :
    ∃ negative digits, exponentText order = 'e' :: (if negative then '-' else '+') :: digits ∧
      digits ≠ [] ∧ (∀ char ∈ digits, char.isDigit = true) ∧
        Numeral.value ⟨negative, digits⟩ = order := by
  obtain ⟨zeros, padded⟩ : ∃ zeros, (if (Integer.digits order.natAbs).length < 2 then
      '0' :: Integer.digits order.natAbs else Integer.digits order.natAbs) =
        List.replicate zeros '0' ++ Integer.digits order.natAbs := by
    split
    · exact ⟨1, rfl⟩
    · exact ⟨0, rfl⟩
  refine ⟨decide (order < 0), List.replicate zeros '0' ++ Integer.digits order.natAbs, ?_,
    List.append_ne_nil_of_right_ne_nil _ (digits_ne_nil _), ?_, ?_⟩
  · simp only [exponentText, padded, decide_eq_true_eq]
  · exact isDigit_of_mem_zeros_append (fun char digit => isDigit_of_mem_digits digit) zeros
  · have size : value (List.replicate zeros '0' ++ Integer.digits order.natAbs) = order.natAbs := by
      rw [value_zeros_append, value_digits]
    by_cases negative : order < 0
    · simp only [Numeral.value, size, negative, decide_true, if_true]
      omega
    · simp only [Numeral.value, size, negative, decide_false, Bool.false_eq_true, if_false]
      omega

theorem exponent?_exponentText (order : Int) :
    ∃ digits, exponentText order = 'e' :: digits ∧ exponent? digits = some order := by
  obtain ⟨negative, digits, shape, filled, numeric, size⟩ := exponentText_shape order
  have read : Numeral.magnitude? digits = some digits :=
    Numeral.magnitude?_eq_some_iff.mpr ⟨rfl, filled, numeric⟩
  refine ⟨_, shape, ?_⟩
  cases negative <;> simp [exponent?, Numeral.ofText?, read, size]

theorem unsigned?_of_exponent (read : mantissa? text = some mantissa)
    (unmarked : ∀ char ∈ text, isExponentMark char = false) (order : Int) :
    unsigned? (text ++ exponentText order) =
      some ⟨false, value (mantissa.whole ++ mantissa.fraction),
        order - mantissa.fraction.length⟩ := by
  obtain ⟨digits, shape, exponent⟩ := exponent?_exponentText order
  have parts := @span_unmarked text unmarked ('e' :: digits) (by simp [isExponentMark])
  rw [shape]
  simp [unsigned?, parts, read, exponent]

/-- A text writes digits whose first is of some order, whatever decimal it takes for that. -/
def WritesDigits (text digits : Text) (order : Int) : Prop :=
  ∃ decimal, unsigned? text = some decimal ∧ decimal.negative = false ∧
    decimal.number = value digits * 10 ^ (order + 1 - digits.length)

theorem writes_scientific {head : Char} {tail : Text}
    (numeric : ∀ char ∈ head :: tail, char.isDigit = true) (order : Int) :
    WritesDigits ((if tail = [] then [head] else head :: '.' :: tail) ++ exponentText order)
      (head :: tail) order := by
  have exponent : order + 1 - ((head :: tail).length : Nat) = order - tail.length := by
    rw [List.length_cons]
    omega
  unfold WritesDigits
  rw [exponent]
  split
  · rename_i single
    subst single
    have read := mantissa?_of_digits (List.cons_ne_nil head []) numeric
    have unmarked : ∀ char ∈ [head], isExponentMark char = false := by
      intro char member
      exact not_isExponentMark_of_isDigit (numeric char member)
    exact ⟨_, unsigned?_of_exponent read unmarked order, rfl, Decimal.number_unsigned _ _⟩
  · have read := mantissa?_of_point (List.cons_ne_nil head []) numeric
    have unmarked := @unmarked_of_point [head] tail numeric
    exact ⟨_, unsigned?_of_exponent read unmarked order, rfl, Decimal.number_unsigned _ _⟩

theorem writes_small (numeric : ∀ char ∈ digits, char.isDigit = true) (small : order < 0) :
    WritesDigits ('0' :: '.' :: List.replicate (-order - 1).toNat '0' ++ digits) digits order := by
  have all : ∀ char ∈ ['0'] ++ (List.replicate (-order - 1).toNat '0' ++ digits),
      char.isDigit = true :=
    isDigit_of_mem_zeros_append (isDigit_of_mem_zeros_append numeric _) 1
  have read := mantissa?_of_point (List.cons_ne_nil '0' []) all
  refine ⟨_, unsigned?_of_mantissa read (unmarked_of_point all), rfl, ?_⟩
  have whole : value (['0'] ++ (List.replicate (-order - 1).toNat '0' ++ digits)) =
      value digits := by
    rw [← value_zeros_append 1, ← value_zeros_append (-order - 1).toNat digits]
    rfl
  rw [Decimal.number_unsigned, whole]
  congr 2
  rw [List.length_append, List.length_replicate]
  omega

theorem writes_whole (filled : digits ≠ []) (numeric : ∀ char ∈ digits, char.isDigit = true)
    {zeros : Nat} (placed : order + 1 - digits.length = zeros) :
    WritesDigits (digits ++ List.replicate zeros '0' ++ ['.', '0']) digits order := by
  have all : ∀ char ∈ (digits ++ List.replicate zeros '0') ++ ['0'], char.isDigit = true := by
    rw [List.append_assoc, ← List.replicate_succ']
    exact List.forall_mem_append.mpr ⟨numeric, isDigit_of_mem_zeros (zeros + 1)⟩
  have read := mantissa?_of_point (List.append_ne_nil_of_left_ne_nil filled _) all
  refine ⟨_, unsigned?_of_mantissa read (unmarked_of_point all), rfl, ?_⟩
  have whole : value (digits ++ List.replicate zeros '0' ++ ['0']) =
      value digits * 10 ^ (zeros + 1) := by
    rw [List.append_assoc, ← List.replicate_succ', value_append_zeros]
  rw [Decimal.number_unsigned, whole, placed, List.length_singleton, zpow_neg, zpow_natCast,
    zpow_natCast]
  push_cast
  rw [pow_succ]
  field_simp

theorem writes_parted (numeric : ∀ char ∈ digits, char.isDigit = true) {before : Nat}
    (parted : 0 < before) (less : before < digits.length) :
    WritesDigits (digits.take before ++ '.' :: digits.drop before) digits (before - 1) := by
  have all : ∀ char ∈ digits.take before ++ digits.drop before, char.isDigit = true := by
    rwa [List.take_append_drop]
  have filled : digits.take before ≠ [] := by
    rw [Ne, List.take_eq_nil_iff]
    rintro (none | rfl)
    · omega
    · simp at less
  have read := mantissa?_of_point filled all
  refine ⟨_, unsigned?_of_mantissa read (unmarked_of_point all), rfl, ?_⟩
  rw [Decimal.number_unsigned, List.take_append_drop]
  congr 2
  rw [List.length_drop]
  omega

theorem writes_layout (filled : digits ≠ []) (numeric : ∀ char ∈ digits, char.isDigit = true)
    (order : Int) : WritesDigits (layout digits order) digits order := by
  unfold layout
  split
  · obtain ⟨head, tail, rfl⟩ := List.exists_cons_of_ne_nil filled
    have written := writes_scientific numeric order
    cases tail with
    | nil => exact written
    | cons next rest => exact written
  · split
    · rename_i small
      exact writes_small numeric small
    · rename_i large
      dsimp only
      by_cases fits : digits.length ≤ order.toNat + 1
      · obtain ⟨zeros, counted⟩ := Nat.exists_eq_add_of_le fits
        have gap : order.toNat + 1 - digits.length = zeros := by omega
        have written := @writes_whole digits order filled numeric zeros (by omega)
        rw [List.append_assoc] at written
        rw [if_pos fits, List.take_of_length_le fits, gap]
        simpa using written
      · have none : order.toNat + 1 - digits.length = 0 := by omega
        have written := @writes_parted digits numeric (order.toNat + 1) (by omega) (by omega)
        have same : ((order.toNat + 1 : Nat) : Int) - 1 = order := by omega
        rw [same] at written
        rw [if_neg fits, none]
        simpa using written

theorem negative_of_findSome? {attempt : Nat → Option Decimal} {negative : Bool}
    (each : ∀ length, ∀ decimal ∈ attempt length, decimal.negative = negative) (lengths : List Nat) :
    ((lengths.findSome? attempt).getD ⟨negative, 0, 0⟩).negative = negative := by
  cases found : lengths.findSome? attempt with
  | none => rfl
  | some decimal =>
      obtain ⟨length, _, same⟩ := List.exists_of_findSome?_eq_some found
      exact each length decimal same

theorem shortest_negative (double : Binary64) : double.shortest.negative = double.negative := by
  unfold shortest
  dsimp only
  split
  · rfl
  · apply negative_of_findSome?
    intro length decimal member
    obtain ⟨point, _, rfl⟩ := Option.map_eq_some_iff.mp member
    rfl

theorem unsigned?_minus (rest : Text) : unsigned? ('-' :: rest) = none := by
  have refused : mantissa? (('-' :: rest).takeWhile fun char => !isExponentMark char) = none := by
    have minus : ('-' :: rest).takeWhile (fun char => !isExponentMark char) =
        '-' :: rest.takeWhile fun char => !isExponentMark char := by
      simp [isExponentMark]
    rw [minus]
    simp [mantissa?, Text.cut, show ('-' : Char).isDigit = false from rfl]
  simp [unsigned?, refused]

theorem ofText?_signed {body : Text} {decimal : Decimal} (read : unsigned? body = some decimal)
    (unsigned : decimal.negative = false) (negative : Bool) :
    Decimal.ofText? (signed negative body) = some { decimal with negative } := by
  cases negative with
  | true => simp [signed, Decimal.ofText?, read]
  | false =>
      have plain : Decimal.ofText? body = unsigned? body := by
        unfold Decimal.ofText?
        split
        · rw [unsigned?_minus] at read
          cases read
        · rfl
      rw [signed, if_neg (by decide), plain, read, ← unsigned]

theorem significant_digits {number : Nat} (positive : number ≠ 0) :
    Text.dropTrailing '0' (Integer.digits number) ≠ [] ∧
      (∀ char ∈ Text.dropTrailing '0' (Integer.digits number), char.isDigit = true) ∧
      ∀ char ∈ (Text.dropTrailing '0' (Integer.digits number)).head?, char ≠ '0' := by
  obtain ⟨zeros, shape⟩ := Text.dropTrailing_append '0' (Integer.digits number)
  have kept : Text.dropTrailing '0' (Integer.digits number) ≠ [] := by
    intro nothing
    apply positive
    rw [← value_digits number, ← shape, nothing, List.nil_append, value_zeros]
  refine ⟨kept, ?_, ?_⟩
  · intro char member
    apply @isDigit_of_mem_digits number
    rw [← shape]
    exact List.mem_append_left _ member
  · rw [← List.head?_append_of_ne_nil _ kept, shape]
    exact head_digits (Nat.pos_of_ne_zero positive)

theorem unsigned?_layout_of_decimal (decimal : Decimal) (filled : decimal.coefficient ≠ 0) :
    ∃ written, unsigned? (layout (Text.dropTrailing '0' (Integer.digits decimal.coefficient))
        ((Integer.digits decimal.coefficient).length - 1 + decimal.exponent)) = some written ∧
      written.negative = false ∧
      written.number = decimal.coefficient * 10 ^ decimal.exponent := by
  obtain ⟨zeros, shape⟩ := Text.dropTrailing_append '0' (Integer.digits decimal.coefficient)
  have size : value (Text.dropTrailing '0' (Integer.digits decimal.coefficient)) * 10 ^ zeros =
      decimal.coefficient := by
    rw [← value_append_zeros, shape, value_digits]
  obtain ⟨kept, numeric, _⟩ := significant_digits filled
  obtain ⟨written, read, unsigned, number⟩ := writes_layout kept numeric
    ((Integer.digits decimal.coefficient).length - 1 + decimal.exponent)
  refine ⟨written, read, unsigned, ?_⟩
  have length : (Integer.digits decimal.coefficient).length =
      (Text.dropTrailing '0' (Integer.digits decimal.coefficient)).length + zeros := by
    rw [← shape, List.length_append, List.length_replicate, shape]
  have exponent : ((Integer.digits decimal.coefficient).length : Int) - 1 + decimal.exponent + 1 -
      (Text.dropTrailing '0' (Integer.digits decimal.coefficient)).length =
        zeros + decimal.exponent := by
    omega
  calc
    written.number = value (Text.dropTrailing '0' (Integer.digits decimal.coefficient)) *
        10 ^ ((zeros : Int) + decimal.exponent) := by rw [number, exponent]
    _ = (value (Text.dropTrailing '0' (Integer.digits decimal.coefficient)) * 10 ^ zeros : Nat) *
        10 ^ decimal.exponent := by
      rw [zpow_add₀ (by decide), zpow_natCast]
      push_cast
      ring
    _ = decimal.coefficient * 10 ^ decimal.exponent := by rw [size]

theorem isNan_of_isFinite {double : Binary64} (finite : double.isFinite = true) :
    double.isNan = false := by
  unfold isFinite at finite
  have below := of_decide_eq_true finite
  exact decide_eq_false (Nat.not_lt.mpr (Nat.le_of_lt below))

theorem ofText?_text {double : Binary64} (finite : double.isFinite = true) :
    ∃ decimal, Decimal.ofText? double.text = some decimal ∧
      decimal.number = double.shortest.number := by
  have number := isNan_of_isFinite finite
  have sign := double.shortest_negative
  by_cases zero : double.shortest.coefficient = 0
  · have read : unsigned? "0.0".toList = some ⟨false, 0, -1⟩ := by decide
    have text : double.text = signed double.negative "0.0".toList := by
      simp [Binary64.text, number, finite, zero]
    refine ⟨_, by rw [text, ofText?_signed read rfl], ?_⟩
    simp [Decimal.number, zero]
  · obtain ⟨written, read, unsigned, same⟩ := unsigned?_layout_of_decimal double.shortest zero
    have text : double.text = signed double.negative
        (layout (Text.dropTrailing '0' (Integer.digits double.shortest.coefficient))
          ((Integer.digits double.shortest.coefficient).length - 1 + double.shortest.exponent)) := by
      simp [Binary64.text, number, finite, zero]
    refine ⟨_, by rw [text, ofText?_signed read unsigned], ?_⟩
    have plain : written.number = written.coefficient * 10 ^ written.exponent := by
      simp [Decimal.number, unsigned]
    rw [Decimal.number, Decimal.number, sign, ← plain, same]

end Binary64
end Wallboard
