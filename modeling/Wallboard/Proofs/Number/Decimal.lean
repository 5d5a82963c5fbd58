import Mathlib.Data.List.Induction
import Wallboard.Number.Integer

namespace Wallboard.Integer

def WithinLimit (value : Int) : Prop := (digits value.natAbs).length ≤ digitLimit

instance (value : Int) : Decidable (WithinLimit value) :=
  inferInstanceAs (Decidable (_ ≤ _))

def Natural (value : Int) : Prop := 0 ≤ value ∧ WithinLimit value

theorem value_digits (number : Nat) : value (digits number) = number :=
  Nat.ofDigitChars_ten_toDigits

theorem digits_ne_nil (number : Nat) : digits number ≠ [] := Nat.toDigits_ne_nil

theorem isDigit_of_mem_digits {number : Nat} {char : Char} (member : char ∈ digits number) :
    char.isDigit = true :=
  Nat.isDigit_of_mem_toDigits (by decide) (by decide) member

theorem digitValue_lt {char : Char} (digit : char.isDigit = true) : digitValue char < 10 := by
  have bounds : 48 ≤ char.toNat ∧ char.toNat ≤ 57 := by
    simpa [Char.isDigit, Char.le_def, UInt32.le_iff_toNat_le] using digit
  have zero : '0'.toNat = 48 := rfl
  rw [digitValue, zero]
  omega

theorem value_append (text : Text) (char : Char) :
    value (text ++ [char]) = 10 * value text + digitValue char := by
  simp [value, List.foldl_append]

theorem value_lt {text : Text} (numeric : ∀ char ∈ text, char.isDigit = true) :
    value text < Nat.pow 10 text.length := by
  induction text using List.reverseRecOn with
  | nil => simp [value]
  | append_singleton text last ih =>
      have front : value text < Nat.pow 10 text.length :=
        ih fun char member => numeric char (List.mem_append_left [last] member)
      have back : digitValue last < 10 := digitValue_lt (numeric last (by simp))
      have power : Nat.pow 10 (text.length + 1) = Nat.pow 10 text.length * 10 := rfl
      rw [value_append, List.length_append, List.length_singleton, power]
      omega

theorem length_digits_le_iff {number length : Nat} (positive : 0 < length) :
    (digits number).length ≤ length ↔ number < Nat.pow 10 length :=
  Nat.length_toDigits_le_iff (by decide) positive

theorem length_digits_pos (number : Nat) : 0 < (digits number).length :=
  List.length_pos_iff.mpr (digits_ne_nil number)

theorem lt_pow_length_digits (number : Nat) : number < Nat.pow 10 (digits number).length :=
  (length_digits_le_iff (length_digits_pos number)).mp (Nat.le_refl _)

theorem pow_le_of_length_digits {number : Nat} (positive : 0 < number) :
    Nat.pow 10 ((digits number).length - 1) ≤ number := by
  by_contra less
  rcases Nat.eq_zero_or_pos ((digits number).length - 1) with single | more
  · rw [single] at less
    exact less positive
  · have fewer := (length_digits_le_iff more).mpr (Nat.not_le.mp less)
    omega

theorem length_digits_value_le {text : Text} (filled : text ≠ [])
    (numeric : ∀ char ∈ text, char.isDigit = true) :
    (digits (value text)).length ≤ text.length := by
  have long : 0 < text.length := List.length_pos_iff.mpr filled
  exact (length_digits_le_iff long).mpr (value_lt numeric)

theorem head_digits {number : Nat} (positive : 0 < number) :
    ∀ char ∈ (digits number).head?, char ≠ '0' := by
  rintro char lead rfl
  obtain ⟨tail, shape⟩ := List.head?_eq_some_iff.mp lead
  have numeric : ∀ char ∈ tail, char.isDigit = true := by
    intro char member
    apply @isDigit_of_mem_digits number
    rw [shape]
    exact List.mem_cons_of_mem '0' member
  have power := pow_le_of_length_digits positive
  have below := value_lt numeric
  have same : value tail = number := by
    rw [← value_digits number, shape]
    rfl
  rw [shape, List.length_cons, Nat.add_sub_cancel] at power
  rw [same] at below
  omega

theorem Numeral.magnitude?_eq_some_iff {text found : Text} :
    magnitude? text = some found ↔
      text = found ∧ found ≠ [] ∧ ∀ char ∈ found, char.isDigit = true := by
  unfold magnitude?
  split
  · rename_i sound
    simp only [Option.some.injEq, iff_self_and]
    rintro rfl
    exact ⟨sound.1, List.all_eq_true.mp sound.2⟩
  · rename_i unsound
    constructor
    · intro impossible
      cases impossible
    · rintro ⟨rfl, filled, numeric⟩
      exact absurd ⟨filled, List.all_eq_true.mpr numeric⟩ unsound

theorem Numeral.digits_of_ofText? {text : Text} {numeral : Numeral}
    (written : ofText? text = some numeral) :
    numeral.digits ≠ [] ∧ ∀ char ∈ numeral.digits, char.isDigit = true := by
  unfold ofText? at written
  split at written <;>
    · obtain ⟨found, read, rfl⟩ := Option.map_eq_some_iff.mp written
      exact (magnitude?_eq_some_iff.mp read).2

theorem Numeral.natAbs_value (numeral : Numeral) :
    numeral.value.natAbs = Integer.value numeral.digits := by
  unfold Numeral.value
  split <;> simp

theorem Numeral.withinLimit {numeral : Numeral} (filled : numeral.digits ≠ [])
    (numeric : ∀ char ∈ numeral.digits, char.isDigit = true)
    (short : numeral.digits.length ≤ digitLimit) : WithinLimit numeral.value := by
  rw [WithinLimit, natAbs_value]
  exact Nat.le_trans (length_digits_value_le filled numeric) short

theorem text_ne_nil (value : Int) : text value ≠ [] := by
  unfold text
  split
  · simp
  · exact digits_ne_nil _

theorem text_of_nonneg {value : Int} (natural : 0 ≤ value) : text value = digits value.natAbs :=
  if_neg (Int.not_lt.mpr natural)

end Wallboard.Integer
