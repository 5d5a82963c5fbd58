import Wallboard.Number.Integer
import Wallboard.Text.Lines
import Wallboard.Text.Quoted

namespace Wallboard.Text

def Printable (text : Text) : Prop := ∀ char ∈ text, isPrintable char = true

instance (text : Text) : Decidable (Printable text) :=
  decidable_of_iff (text.all isPrintable = true) List.all_eq_true

/-- A text of printable characters that is displayed on a single line. -/
structure OneLine (text : Text) : Prop where
  single : lines text = [text]
  printable : Printable text

variable {text front back : Text} {mark char : Char}

theorem Printable.nil : Printable [] := List.forall_mem_nil _

theorem Printable.cons (head : isPrintable char = true) (tail : Printable text) :
    Printable (char :: text) := List.forall_mem_cons.mpr ⟨head, tail⟩

theorem Printable.append (left : Printable front) (right : Printable back) :
    Printable (front ++ back) := List.forall_mem_append.mpr ⟨left, right⟩

theorem Printable.join {separator : Text} (between : Printable separator) {pieces : List Text}
    (printable : ∀ piece ∈ pieces, Printable piece) : Printable (Text.join separator pieces) := by
  induction pieces with
  | nil => exact .nil
  | cons piece rest ih =>
      obtain ⟨head, tail⟩ := List.forall_mem_cons.mp printable
      cases rest with
      | nil => exact head
      | cons next others => exact (head.append between).append (ih tail)

theorem isLineBreak_eq_false_iff :
    isLineBreak char = false ↔ ¬ (0x0a ≤ char.toNat ∧ char.toNat ≤ 0x0d) ∧
      ¬ (0x1c ≤ char.toNat ∧ char.toNat ≤ 0x1e) ∧ char.toNat ∉ [0x85, 0x2028, 0x2029] := by
  simp [isLineBreak, and_assoc]

/-- The line breaks beyond ASCII are the three that Unicode names as such. -/
theorem isLineBreak_of_isPrintable (printable : isPrintable char = true) :
    isLineBreak char = false := by
  have ranged : ∀ code ∈ [0x85, 0x2028, 0x2029],
      unprintableRanges.any (fun range => range.1 ≤ code && code ≤ range.2) = true := by
    decide +kernel
  unfold isPrintable at printable
  rw [isLineBreak_eq_false_iff]
  generalize char.toNat = code at printable
  dsimp only at printable
  by_cases ascii : code < 0x80
  · simp only [if_pos ascii, Bool.and_eq_true, decide_eq_true_eq] at printable
    refine ⟨by omega, by omega, ?_⟩
    simp only [List.mem_cons, List.not_mem_nil, or_false, not_or]
    omega
  · have other : code ∉ [0x85, 0x2028, 0x2029] := by
      intro member
      rw [if_neg ascii, ranged code member] at printable
      cases printable
    exact ⟨by omega, by omega, other⟩

theorem linesFrom_cons_of_unbroken (unbroken : isLineBreak char = false) (pending rest : Text) :
    linesFrom pending (char :: rest) = linesFrom (char :: pending) rest := by
  have other : char ≠ '\r' := by
    rintro rfl
    cases unbroken
  simp [linesFrom, other, unbroken]

theorem linesFrom_of_unbroken (pending : Text)
    (unbroken : ∀ char ∈ text, isLineBreak char = false) :
    linesFrom pending text =
      if (pending.reverse ++ text).isEmpty then [] else [pending.reverse ++ text] := by
  induction text generalizing pending with
  | nil => simp [linesFrom]
  | cons head tail ih =>
      obtain ⟨first, later⟩ := List.forall_mem_cons.mp unbroken
      have moved : (head :: pending).reverse ++ tail = pending.reverse ++ head :: tail := by
        rw [List.reverse_cons, List.append_assoc, List.singleton_append]
      rw [linesFrom_cons_of_unbroken first, ih (head :: pending) later, moved]

theorem Printable.oneLine (printable : Printable text) (filled : text ≠ []) : OneLine text := by
  refine ⟨?_, printable⟩
  rw [lines, linesFrom_of_unbroken]
  · simp [filled]
  · intro char member
    exact isLineBreak_of_isPrintable (printable char member)

theorem printable_toDigits {base : Nat} (several : 1 < base) (few : base ≤ 16) (number : Nat) :
    Printable (Nat.toDigits base number) := by
  have digit : ∀ digit < 16, Printable [Nat.digitChar digit] := by decide
  induction number using Nat.strongRecOn with
  | ind number ih =>
      by_cases small : number < base
      · rw [Nat.toDigits_of_lt_base small]
        exact digit number (Nat.lt_of_lt_of_le small few)
      · have large : base ≤ number := Nat.le_of_not_lt small
        rw [Nat.toDigits_of_base_le several large]
        apply (ih (number / base) (Nat.div_lt_self (by omega) several)).append
        exact digit (number % base) (Nat.lt_of_lt_of_le (Nat.mod_lt number (by omega)) few)

theorem printable_hexDigits (width code : Nat) : Printable (hexDigits width code) := by
  apply Printable.append
  · intro char member
    rw [List.eq_of_mem_replicate member]
    decide
  · exact printable_toDigits (by decide) (by decide) code

theorem printable_escapeChar (marked : isPrintable mark = true) (char : Char) :
    Printable (escapeChar mark char) := by
  have backslash : isPrintable '\\' = true := by decide
  unfold escapeChar
  split
  case isTrue special =>
    rcases special with rfl | rfl
    · exact .cons backslash (.cons marked .nil)
    · exact .cons backslash (.cons backslash .nil)
  split
  · decide
  split
  · decide
  split
  · decide
  split
  case isTrue printable => exact .cons printable .nil
  unfold hexEscape
  split
  · exact .cons backslash (.cons (by decide) (printable_hexDigits 2 _))
  split
  · exact .cons backslash (.cons (by decide) (printable_hexDigits 4 _))
  · exact .cons backslash (.cons (by decide) (printable_hexDigits 8 _))

theorem isPrintable_quoteMark (text : Text) : isPrintable (quoteMark text) = true := by
  unfold quoteMark
  split <;> decide

theorem printable_quoted (text : Text) : Printable (quoted text) := by
  have marked := isPrintable_quoteMark text
  apply Printable.append _ (Printable.cons marked .nil)
  apply Printable.cons marked
  intro char member
  obtain ⟨source, _, escaped⟩ := List.mem_flatMap.mp member
  exact printable_escapeChar marked source char escaped

end Wallboard.Text

namespace Wallboard.Integer

theorem printable_digits (number : Nat) : Text.Printable (digits number) :=
  Text.printable_toDigits (by decide) (by decide) number

theorem printable_text (value : Int) : Text.Printable (text value) := by
  unfold text
  split
  · exact .cons (by decide) (printable_digits value.natAbs)
  · exact printable_digits value.natAbs

end Wallboard.Integer
