import Wallboard.Json.Reader
import Wallboard.Proofs.Number.Shortest

/-!
Numbers in JSON texts: the text of an integer within the limit or of a finite double is read as that
number, up to the first character with which no number goes on.
-/
namespace Wallboard.Json.Reader

open Integer Binary64

variable {admits : Numeral → Bool} {rest whole places run : Text}

def EndsNumber (rest : Text) : Prop :=
  ∀ char ∈ rest.head?, char.isDigit = false ∧ char ≠ '.' ∧ isExponentMark char = false

theorem EndsNumber.nil : EndsNumber [] := by
  intro char member
  cases member

theorem digits_append (numeric : ∀ char ∈ run, char.isDigit = true)
    (ends : ∀ char ∈ rest.head?, char.isDigit = false) : digits (run ++ rest) = (run, rest) := by
  have stop : rest.takeWhile Char.isDigit = [] ∧ rest.dropWhile Char.isDigit = rest := by
    cases rest with
    | nil => exact ⟨rfl, rfl⟩
    | cons char after => simp [ends char rfl]
  rw [digits, List.takeWhile_append_of_pos numeric, List.dropWhile_append_of_pos numeric, stop.1,
    stop.2, List.append_nil]

/-- The whole part of a number: digits of which the first is no zero, or a zero alone. -/
structure Leads (whole : Text) : Prop where
  filled : whole ≠ []
  numeric : ∀ char ∈ whole, char.isDigit = true
  first : whole = ['0'] ∨ ∀ char ∈ whole.head?, char ≠ '0'

theorem whole?_append (leads : Leads whole) (ends : ∀ char ∈ rest.head?, char.isDigit = false) :
    whole? (whole ++ rest) = some (whole, rest) := by
  obtain ⟨filled, numeric, zero | first⟩ := leads
  · rw [zero]
    rfl
  · obtain ⟨head, tail, rfl⟩ := List.exists_cons_of_ne_nil filled
    have other : head ≠ '0' := first head rfl
    have parted := digits_append numeric ends
    rw [List.cons_append] at parted ⊢
    unfold whole?
    split
    · rename_i zero
      exact absurd (List.cons.inj zero).1 other
    · rw [parted]
      rfl

theorem fraction_of_point (filled : places ≠ []) (numeric : ∀ char ∈ places, char.isDigit = true)
    (ends : ∀ char ∈ rest.head?, char.isDigit = false) :
    fraction ('.' :: places ++ rest) = (places, rest) := by
  rw [List.cons_append, fraction, digits_append numeric ends]
  simp [filled]

theorem fraction_of_none (absent : ∀ char ∈ rest.head?, char ≠ '.') : fraction rest = ([], rest) := by
  unfold fraction
  split
  · exact absurd rfl (absent '.' rfl)
  · rfl

theorem exponent_of_mark (order : Int) (ends : ∀ char ∈ rest.head?, char.isDigit = false) :
    exponent (exponentText order ++ rest) = (some order, rest) := by
  obtain ⟨negative, power, shape, filled, numeric, size⟩ := exponentText_shape order
  have parted := digits_append numeric ends
  rw [shape]
  cases negative <;> simp [exponent, isExponentMark, parted, filled, size]

theorem exponent_of_none (absent : ∀ char ∈ rest.head?, isExponentMark char = false) :
    exponent rest = (none, rest) := by
  unfold exponent
  split
  · rename_i mark after
    simp [absent mark rfl]
  · rfl

/-- An unsigned number by its parts, of which the last two may be missing. -/
structure Literal where
  whole : Text
  places : Text
  power : Option Int

namespace Literal

def text (literal : Literal) : Text :=
  literal.whole ++ ((if literal.places = [] then [] else '.' :: literal.places) ++
    literal.power.elim [] exponentText)

def decimal (literal : Literal) (negative : Bool) : Decimal :=
  ⟨negative, Integer.value (literal.whole ++ literal.places),
    literal.power.getD 0 - literal.places.length⟩

structure Proper (literal : Literal) : Prop where
  leads : Leads literal.whole
  numeric : ∀ char ∈ literal.places, char.isDigit = true

variable {literal : Literal}

theorem head_exponentText (order : Int) (rest : Text) :
    ∀ char ∈ (exponentText order ++ rest).head?, char.isDigit = false ∧ char ≠ '.' := by
  intro char lead
  obtain rfl : 'e' = char := Option.some.inj lead
  exact ⟨rfl, by decide⟩

theorem Proper.head (proper : literal.Proper) :
    ∃ head tail, literal.text = head :: tail ∧ head.isDigit = true := by
  obtain ⟨head, tail, shape⟩ := List.exists_cons_of_ne_nil proper.leads.filled
  refine ⟨head, _, by rw [text, shape, List.cons_append], ?_⟩
  apply proper.leads.numeric
  rw [shape]
  exact List.mem_cons_self

theorem Proper.parts (proper : literal.Proper) (ends : EndsNumber rest) :
    ∃ afterWhole afterPlaces, whole? (literal.text ++ rest) = some (literal.whole, afterWhole) ∧
      fraction afterWhole = (literal.places, afterPlaces) ∧
      exponent afterPlaces = (literal.power, rest) := by
  rcases literal with ⟨whole, places, power⟩
  obtain ⟨leads, numeric⟩ := proper
  have marked : exponent (power.elim [] exponentText ++ rest) = (power, rest) ∧
      ∀ char ∈ (power.elim [] exponentText ++ rest).head?, char.isDigit = false ∧ char ≠ '.' := by
    cases power with
    | none =>
        exact ⟨exponent_of_none fun char lead => (ends char lead).2.2,
          fun char lead => ⟨(ends char lead).1, (ends char lead).2.1⟩⟩
    | some order =>
        exact ⟨exponent_of_mark order fun char lead => (ends char lead).1,
          head_exponentText order rest⟩
  obtain ⟨exponent, following⟩ := marked
  refine ⟨(if places = [] then [] else '.' :: places) ++ (power.elim [] exponentText ++ rest),
    power.elim [] exponentText ++ rest, ?_, ?_, exponent⟩
  · rw [text, List.append_assoc, List.append_assoc]
    apply whole?_append leads
    split
    · exact fun char lead => (following char lead).1
    · intro char lead
      obtain rfl : '.' = char := Option.some.inj lead
      rfl
  · split
    · rename_i none
      subst none
      exact fraction_of_none fun char lead => (following char lead).2
    · rename_i filled
      exact fraction_of_point filled numeric fun char lead => (following char lead).1

theorem Proper.number (proper : literal.Proper) (ends : EndsNumber rest) (negative : Bool) :
    number admits (signed negative literal.text ++ rest) =
      if literal.places.isEmpty && literal.power.isNone then
        if admits ⟨negative, literal.whole⟩ then
          .ok (.int (Numeral.value ⟨negative, literal.whole⟩), rest)
        else .error (.oversized ⟨literal.whole.length⟩)
      else .ok (.double (.ofDecimal (literal.decimal negative)), rest) := by
  obtain ⟨afterWhole, afterPlaces, whole, places, power⟩ := proper.parts ends
  unfold Reader.number
  split
  rename_i sign unsigned parted
  obtain ⟨rfl, rfl⟩ : sign = negative ∧ unsigned = literal.text ++ rest := by
    cases negative with
    | true => exact ⟨(Prod.mk.inj parted).1.symm, (Prod.mk.inj parted).2.symm⟩
    | false =>
        split at parted
        · rename_i after minus
          obtain ⟨head, tail, shape, digit⟩ := proper.head
          rw [signed, if_neg Bool.false_ne_true, shape, List.cons_append] at minus
          rw [(List.cons.inj minus).1] at digit
          cases digit
        · exact ⟨(Prod.mk.inj parted).1.symm, (Prod.mk.inj parted).2.symm⟩
  simp only [whole, places, power]
  rfl

/-- The looser grammar of decimals has the same number in such a text. -/
theorem Proper.unsigned? (proper : literal.Proper) :
    Binary64.unsigned? literal.text = some (literal.decimal false) := by
  rcases literal with ⟨whole, places, power⟩
  obtain ⟨⟨filled, numeric, _⟩, placesNumeric⟩ := proper
  have all : ∀ char ∈ whole ++ places, char.isDigit = true :=
    List.forall_mem_append.mpr ⟨numeric, placesNumeric⟩
  have mantissa : mantissa? (whole ++ if places = [] then [] else '.' :: places) =
      some ⟨whole, places⟩ ∧
        ∀ char ∈ whole ++ (if places = [] then [] else '.' :: places),
          isExponentMark char = false := by
    split
    · rename_i none
      subst none
      rw [List.append_nil]
      exact ⟨mantissa?_of_digits filled numeric, fun char member =>
        not_isExponentMark_of_isDigit (numeric char member)⟩
    · exact ⟨mantissa?_of_point filled all, unmarked_of_point all⟩
  rw [text, ← List.append_assoc]
  cases power with
  | none =>
      rw [Option.elim_none, List.append_nil, unsigned?_of_mantissa mantissa.1 mantissa.2]
      simp [decimal]
  | some order => exact unsigned?_of_exponent mantissa.1 mantissa.2 order

end Literal

def Literal.Broken (literal : Literal) : Prop := literal.places ≠ [] ∨ literal.power ≠ none

theorem leads_zero : Leads ['0'] :=
  ⟨List.cons_ne_nil '0' [], List.forall_mem_singleton.mpr rfl, .inl rfl⟩

theorem exists_literal_layout {digits : Text} (filled : digits ≠ [])
    (numeric : ∀ char ∈ digits, char.isDigit = true)
    (first : ∀ char ∈ digits.head?, char ≠ '0') (order : Int) :
    ∃ literal : Literal, literal.Proper ∧ literal.Broken ∧ layout digits order = literal.text := by
  obtain ⟨head, tail, rfl⟩ := List.exists_cons_of_ne_nil filled
  unfold layout
  split
  · have lead : Leads [head] :=
      ⟨List.cons_ne_nil head [], List.forall_mem_singleton.mpr (numeric head List.mem_cons_self),
        .inr first⟩
    refine ⟨⟨[head], tail, some order⟩, ⟨lead, ?_⟩, .inr (Option.some_ne_none order), ?_⟩
    · exact fun char member => numeric char (List.mem_cons_of_mem head member)
    · cases tail <;> rfl
  · split
    · refine ⟨⟨['0'], List.replicate (-order - 1).toNat '0' ++ head :: tail, none⟩,
        ⟨leads_zero, isDigit_of_mem_zeros_append numeric _⟩, .inl ?_, ?_⟩
      · exact List.append_ne_nil_of_right_ne_nil _ filled
      · simp [Literal.text]
    · extract_lets whole
      have lead : Leads ((head :: tail).take whole ++
          List.replicate (whole - (head :: tail).length) '0') := by
        refine ⟨List.cons_ne_nil _ _, List.forall_mem_append.mpr ⟨?_, isDigit_of_mem_zeros _⟩, .inr first⟩
        exact fun char member => numeric char (List.mem_of_mem_take member)
      have placed : (if (head :: tail).length ≤ whole then ['0'] else (head :: tail).drop whole) ≠
          [] := by
        split
        · exact List.cons_ne_nil '0' []
        · rename_i longer
          exact fun none => longer (List.drop_eq_nil_iff.mp none)
      refine ⟨⟨_, if (head :: tail).length ≤ whole then ['0'] else (head :: tail).drop whole, none⟩,
        ⟨lead, ?_⟩, .inl placed, ?_⟩
      · split
        · exact isDigit_of_mem_zeros 1
        · exact fun char member => numeric char (List.mem_of_mem_drop member)
      · simp only [Literal.text, if_neg placed, Option.elim_none, List.append_nil]

theorem exists_literal {double : Binary64} (finite : double.isFinite = true) :
    ∃ literal : Literal, literal.Proper ∧ literal.Broken ∧
      double.text = signed double.negative literal.text := by
  have number := isNan_of_isFinite finite
  by_cases zero : double.shortest.coefficient = 0
  · refine ⟨⟨['0'], ['0'], none⟩, ⟨leads_zero, isDigit_of_mem_zeros 1⟩,
      .inl (List.cons_ne_nil '0' []), ?_⟩
    simp [Binary64.text, number, finite, zero, Literal.text]
  · obtain ⟨filled, numeric, first⟩ := significant_digits zero
    obtain ⟨literal, proper, broken, shape⟩ := exists_literal_layout filled numeric first
      ((Integer.digits double.shortest.coefficient).length - 1 + double.shortest.exponent)
    refine ⟨literal, proper, broken, ?_⟩
    rw [← shape]
    simp [Binary64.text, number, finite, zero]

theorem ne_of_isDigit {head char : Char} (digit : head.isDigit = true)
    (other : char.isDigit = false) : head ≠ char := by
  rintro rfl
  rw [digit] at other
  cases other

theorem constant?_of_digit {head : Char} (digit : head.isDigit = true) (tail : Text)
    (negative : Bool) : constant? (signed negative (head :: tail)) = none := by
  have other (char : Char) (noDigit : char.isDigit = false) := (ne_of_isDigit digit noDigit).symm
  cases negative with
  | true => simp [constant?, constants, signed, Text.startsWith, List.isPrefixOf, other 'I' rfl]
  | false =>
      simp [constant?, constants, signed, Text.startsWith, List.isPrefixOf, other 'n' rfl,
        other 't' rfl, other 'f' rfl, other 'N' rfl, other 'I' rfl, other '-' rfl]

theorem head_signed {head first : Char} (digit : head.isDigit = true) {tail rest : Text}
    {negative : Bool} (same : signed negative (head :: tail) = first :: rest) :
    first = '-' ∨ first.isDigit = true := by
  cases negative with
  | true => exact .inl (List.cons.inj same).1.symm
  | false => exact .inr ((List.cons.inj same).1 ▸ digit)

theorem value_of_digit {head : Char} (digit : head.isDigit = true) (tail : Text) (negative : Bool)
    (fuel : Nat) :
    value admits (fuel + 1) (signed negative (head :: tail)) =
      number admits (signed negative (head :: tail)) := by
  have none := constant?_of_digit digit tail negative
  generalize same : signed negative (head :: tail) = input at none
  rw [value.eq_def]
  dsimp only
  split
  · rcases head_signed digit same with minus | digit <;> contradiction
  · rcases head_signed digit same with minus | digit <;> contradiction
  · rcases head_signed digit same with minus | digit <;> contradiction
  · rw [none]

variable {literal : Literal}

theorem Literal.Proper.value (proper : literal.Proper) (negative : Bool) (fuel : Nat) (rest : Text) :
    value admits (fuel + 1) (signed negative literal.text ++ rest) =
      Reader.number admits (signed negative literal.text ++ rest) := by
  obtain ⟨head, tail, shape, digit⟩ := proper.head
  have whole : signed negative literal.text ++ rest = signed negative (head :: (tail ++ rest)) := by
    rw [shape]
    cases negative <;> rfl
  rw [whole]
  exact value_of_digit digit (tail ++ rest) negative fuel

theorem Literal.Proper.solid (proper : literal.Proper) (negative : Bool) :
    ∃ head tail, signed negative literal.text = head :: tail ∧ isSpace head = false := by
  obtain ⟨head, tail, shape, digit⟩ := proper.head
  rw [shape]
  cases negative with
  | true => exact ⟨'-', _, rfl, rfl⟩
  | false =>
      have other (char : Char) (noDigit : char.isDigit = false) : head ≠ char :=
        ne_of_isDigit digit noDigit
      exact ⟨head, tail, rfl, by simp [isSpace, other ' ' rfl, other '\t' rfl, other '\n' rfl,
        other '\r' rfl]⟩

def Literal.ofInt (value : Int) : Literal := ⟨Integer.digits value.natAbs, [], none⟩

theorem Literal.proper_ofInt (value : Int) : (ofInt value).Proper := by
  refine ⟨⟨digits_ne_nil _, fun char member => isDigit_of_mem_digits member, ?_⟩,
    List.forall_mem_nil _⟩
  rcases Nat.eq_zero_or_pos value.natAbs with zero | positive
  · rw [ofInt, zero]
    exact .inl rfl
  · exact .inr (head_digits positive)

theorem Literal.text_ofInt (value : Int) :
    Integer.text value = signed (decide (value < 0)) (ofInt value).text := by
  simp [Integer.text, signed, Literal.text, ofInt]

theorem value_int {number : Int} (ends : EndsNumber rest)
    (admitted : admits ⟨decide (number < 0), Integer.digits number.natAbs⟩ = true) (fuel : Nat) :
    value admits (fuel + 1) (Integer.text number ++ rest) = .ok (.int number, rest) := by
  have proper := Literal.proper_ofInt number
  have same : Numeral.value ⟨decide (number < 0), Integer.digits number.natAbs⟩ = number := by
    simp only [Numeral.value, value_digits, decide_eq_true_eq]
    split <;> omega
  rw [Literal.text_ofInt, proper.value, proper.number ends]
  simp [Literal.ofInt, admitted, same]

theorem value_double {double : Binary64} (finite : double.isFinite = true) (ends : EndsNumber rest)
    (fuel : Nat) :
    value admits (fuel + 1) (double.text ++ rest) = .ok (.double double, rest) := by
  obtain ⟨literal, proper, broken, text⟩ := exists_literal finite
  obtain ⟨decimal, written, same⟩ := ofText?_text finite
  rw [text, ofText?_signed proper.unsigned? rfl] at written
  have read : ofDecimal (literal.decimal double.negative) = double := by
    apply ofDecimal_of_shortest finite rfl
    rw [← same, ← Option.some.inj written]
    rfl
  have noInteger : (literal.places.isEmpty && literal.power.isNone) = false := by
    rcases broken with placed | powered
    · simp [placed]
    · obtain ⟨order, power⟩ := Option.ne_none_iff_exists'.mp powered
      simp [power]
  rw [text, proper.value, proper.number ends, noInteger, if_neg Bool.false_ne_true, read]

end Wallboard.Json.Reader
