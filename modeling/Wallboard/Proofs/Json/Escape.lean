import Wallboard.Json.Reader
import Wallboard.Json.Writer

namespace Wallboard

namespace Text

theorem code_valid (char : Char) :
    char.toNat < 0xd800 ∨ 0xdfff < char.toNat ∧ char.toNat < 0x110000 := char.valid

theorem hexValue?_digitChar : ∀ digit < 16, hexValue? (Nat.digitChar digit) = some digit := by
  decide

theorem hexDigits_one {code : Nat} (small : code < 16) :
    hexDigits 1 code = [Nat.digitChar code] := by
  simp [hexDigits, Nat.toDigits_of_lt_base small]

theorem hexDigits_succ {width : Nat} (wide : 0 < width) (code : Nat) :
    hexDigits (width + 1) code =
      hexDigits width (code / 16) ++ [Nat.digitChar (code % 16)] := by
  by_cases small : code < 16
  · have single : code / 16 = 0 := Nat.div_eq_of_lt small
    have same : code % 16 = code := Nat.mod_eq_of_lt small
    obtain ⟨further, rfl⟩ := Nat.exists_eq_add_of_lt wide
    simp [hexDigits, single, same, Nat.toDigits_of_lt_base small, ← List.replicate_succ']
  · have more := Nat.toDigits_of_base_le (by omega : 1 < 16) (Nat.le_of_not_lt small)
    simp only [hexDigits, more, List.length_append, List.length_singleton, List.append_assoc,
      Nat.add_sub_add_right]

theorem hexDigits_four {code : Nat} (small : code < 0x10000) :
    hexDigits 4 code =
      [Nat.digitChar (code / 16 / 16 / 16), Nat.digitChar (code / 16 / 16 % 16),
       Nat.digitChar (code / 16 % 16), Nat.digitChar (code % 16)] := by
  rw [hexDigits_succ (by omega), hexDigits_succ (by omega), hexDigits_succ (by omega),
    hexDigits_one (by omega)]
  rfl

end Text

namespace Json

variable {char : Char} {code high low opened : Nat} {rest : Text} {pending : List Reader.Part}

namespace Writer

theorem unitEscape_append_ne_nil (code : Nat) (rest : Text) : unitEscape code ++ rest ≠ [] :=
  List.cons_ne_nil _ _

def highUnit (char : Char) : Nat := 0xd800 + (char.toNat - 0x10000) / 0x400

def lowUnit (char : Char) : Nat := 0xdc00 + (char.toNat - 0x10000) % 0x400

theorem highUnit_lt (char : Char) : highUnit char < 0x10000 := by
  have valid := Text.code_valid char
  unfold highUnit
  omega

theorem lowUnit_lt (char : Char) : lowUnit char < 0x10000 := by
  unfold lowUnit
  omega

/-- A character is written with a letter after a backslash, as itself, as its one unit or as its
two. -/
theorem escapeChar_cases (char : Char) :
    (∃ letter, escapeChar char = ['\\', letter] ∧ letter ≠ 'u' ∧
      Reader.plainEscape? letter = some char) ∨
    (escapeChar char = [char] ∧ char ≠ '"' ∧ char ≠ '\\' ∧ 0x20 ≤ char.toNat) ∨
    (char.toNat < 0x10000 ∧ escapeChar char = unitEscape char.toNat) ∨
    (0x10000 ≤ char.toNat ∧
      escapeChar char = unitEscape (highUnit char) ++ unitEscape (lowUnit char)) := by
  unfold escapeChar
  split
  · exact .inl ⟨'"', rfl, by decide, rfl⟩
  · exact .inl ⟨'\\', rfl, by decide, rfl⟩
  · exact .inl ⟨'n', rfl, by decide, rfl⟩
  · exact .inl ⟨'r', rfl, by decide, rfl⟩
  · exact .inl ⟨'t', rfl, by decide, rfl⟩
  · exact .inl ⟨'b', rfl, by decide, rfl⟩
  · exact .inl ⟨'f', rfl, by decide, rfl⟩
  · rename_i quote backslash _ _ _ _ _
    by_cases printable : 0x20 ≤ char.toNat ∧ char.toNat ≤ 0x7e
    · exact .inr (.inl ⟨if_pos printable, quote, backslash, printable.1⟩)
    · by_cases small : char.toNat < 0x10000
      · exact .inr (.inr (.inl ⟨small, by simp only [if_neg printable, if_pos small]⟩))
      · refine .inr (.inr (.inr ⟨Nat.le_of_not_lt small, ?_⟩))
        simp only [if_neg printable, if_neg small, highUnit, lowUnit]

theorem digitChar_ne_return : ∀ digit < 16, '\r' ≠ Nat.digitChar digit := by decide

theorem return_not_mem_unitEscape (small : code < 0x10000) : '\r' ∉ unitEscape code := by
  rw [unitEscape, Text.hexDigits_four small]
  simp only [List.mem_cons, List.not_mem_nil, not_or]
  exact ⟨by decide, by decide, digitChar_ne_return _ (by omega), digitChar_ne_return _ (by omega),
    digitChar_ne_return _ (by omega), digitChar_ne_return _ (by omega), not_false⟩

theorem return_not_mem_string (text : Text) : '\r' ∉ string text := by
  have plain : ∀ char, '\r' ∉ escapeChar char := by
    intro char member
    rcases escapeChar_cases char with ⟨letter, written, _, plain⟩ | ⟨written, _, _, printable⟩ |
      ⟨small, written⟩ | ⟨_, written⟩
    · rw [written] at member
      obtain rfl : '\r' = letter := by simpa using member
      cases plain
    · rw [written] at member
      obtain rfl : '\r' = char := by simpa using member
      exact absurd printable (by decide)
    · rw [written] at member
      exact return_not_mem_unitEscape small member
    · rw [written] at member
      rcases List.mem_append.mp member with high | low
      · exact return_not_mem_unitEscape (highUnit_lt char) high
      · exact return_not_mem_unitEscape (lowUnit_lt char) low
  simpa [string] using fun char _ => plain char

end Writer

namespace Reader

theorem hexUnit?_of_digits (small : code < 0x10000) :
    hexUnit? (Nat.digitChar (code / 16 / 16 / 16)) (Nat.digitChar (code / 16 / 16 % 16))
      (Nat.digitChar (code / 16 % 16)) (Nat.digitChar (code % 16)) = some code := by
  have value : ((code / 16 / 16 / 16 * 16 + code / 16 / 16 % 16) * 16 + code / 16 % 16) * 16 +
      code % 16 = code := by omega
  simp only [hexUnit?, Text.hexValue?_digitChar _ (by omega : code / 16 / 16 / 16 < 16),
    Text.hexValue?_digitChar _ (Nat.mod_lt _ (by omega : 0 < 16)), Option.bind_eq_bind,
    Option.bind_some, value]

theorem parts_unitEscape (small : code < 0x10000) (more : rest ≠ []) :
    parts opened pending (Writer.unitEscape code ++ rest) =
      parts opened (.unit code :: pending) rest := by
  rw [Writer.unitEscape, Text.hexDigits_four small]
  simp only [List.cons_append, List.nil_append]
  rw [parts, hexUnit?_of_digits small]
  simp [more]

theorem parts_plainEscape {letter : Char} (other : letter ≠ 'u')
    (plain : plainEscape? letter = some char) :
    parts opened pending ('\\' :: letter :: rest) = parts opened (.char char :: pending) rest := by
  rw [parts, plain]
  · intro a b c d after same
    exact absurd same other
  · exact other

theorem parts_printable (quote : char ≠ '"') (backslash : char ≠ '\\')
    (printable : 0x20 ≤ char.toNat) :
    parts opened pending (char :: rest) = parts opened (.char char :: pending) rest := by
  rw [parts, if_neg (Nat.not_lt.mpr printable)]
  · exact quote
  all_goals
    intros
    contradiction

theorem not_surrogate (char : Char) :
    isHighSurrogate char.toNat = false ∧ isLowSurrogate char.toNat = false := by
  have valid := Text.code_valid char
  simp only [isHighSurrogate, isLowSurrogate, Bool.and_eq_false_iff, decide_eq_false_iff_not]
  omega

theorem joinParts_unit (char : Char) (others : List Part) :
    joinParts (.unit char.toNat :: others) = char :: joinParts others := by
  obtain ⟨notHigh, notLow⟩ := not_surrogate char
  have same : unitChar char.toNat = char := by simp [unitChar, notHigh, notLow]
  cases others with
  | nil => simp [joinParts, same]
  | cons part others =>
      cases part with
      | char other => simp [joinParts, same]
      | unit other => simp [joinParts, same, notHigh]

theorem joinParts_pair (large : 0x10000 ≤ char.toNat) (others : List Part) :
    joinParts (.unit (Writer.highUnit char) :: .unit (Writer.lowUnit char) :: others) =
      char :: joinParts others := by
  have valid := Text.code_valid char
  have isHigh : isHighSurrogate (Writer.highUnit char) = true := by
    rw [isHighSurrogate, Writer.highUnit, Bool.and_eq_true]
    exact ⟨decide_eq_true (by omega), decide_eq_true (by omega)⟩
  have isLow : isLowSurrogate (Writer.lowUnit char) = true := by
    rw [isLowSurrogate, Writer.lowUnit, Bool.and_eq_true]
    exact ⟨decide_eq_true (by omega), decide_eq_true (by omega)⟩
  have code : 0x10000 + (Writer.highUnit char - 0xd800) * 0x400 +
      (Writer.lowUnit char - 0xdc00) = char.toNat := by
    unfold Writer.highUnit Writer.lowUnit
    omega
  simp only [joinParts, isHigh, isLow, Bool.and_self, if_true, pairChar, code, Char.ofNat_toNat]

theorem parts_escapeChar (char : Char) :
    ∃ found : List Part,
      (∀ {opened : Nat} {pending : List Part} {rest : Text}, rest ≠ [] →
        parts opened pending (Writer.escapeChar char ++ rest) =
          parts opened (found.reverse ++ pending) rest) ∧
      ∀ others, joinParts (found ++ others) = char :: joinParts others := by
  rcases Writer.escapeChar_cases char with ⟨letter, written, other, plain⟩ |
    ⟨written, quote, backslash, printable⟩ | ⟨small, written⟩ | ⟨large, written⟩
  · refine ⟨[.char char], ?_, fun others => by rw [List.singleton_append, joinParts]⟩
    intro opened pending rest more
    rw [written, List.reverse_singleton]
    exact parts_plainEscape other plain
  · refine ⟨[.char char], ?_, fun others => by rw [List.singleton_append, joinParts]⟩
    intro opened pending rest more
    rw [written, List.reverse_singleton]
    exact parts_printable quote backslash printable
  · refine ⟨[.unit char.toNat], ?_, fun others => by rw [List.singleton_append, joinParts_unit]⟩
    intro opened pending rest more
    rw [written, parts_unitEscape small more, List.reverse_singleton, List.singleton_append]
  · refine ⟨[.unit (Writer.highUnit char), .unit (Writer.lowUnit char)], ?_, ?_⟩
    · intro opened pending rest more
      rw [written, List.append_assoc,
        parts_unitEscape (Writer.highUnit_lt char) (Writer.unitEscape_append_ne_nil _ rest),
        parts_unitEscape (Writer.lowUnit_lt char) more, List.reverse_cons,
        List.reverse_singleton, List.singleton_append, List.cons_append, List.singleton_append]
    · intro others
      rw [List.cons_append, List.singleton_append, joinParts_pair large]

theorem parts_written (text rest : Text) (opened : Nat) (pending : List Part) :
    ∃ found, parts opened pending (text.flatMap Writer.escapeChar ++ '"' :: rest) =
        .ok (pending.reverse ++ found, rest) ∧ joinParts found = text := by
  induction text generalizing pending with
  | nil => exact ⟨[], by simp [parts], rfl⟩
  | cons char text ih =>
      obtain ⟨first, read, joined⟩ := parts_escapeChar char
      obtain ⟨others, readOthers, joinedOthers⟩ := ih (first.reverse ++ pending)
      refine ⟨first ++ others, ?_, ?_⟩
      · rw [List.flatMap_cons, List.append_assoc, read (by simp), readOthers]
        simp
      · rw [joined, joinedOthers]

theorem string_written (text rest : Text) (opened : Nat) :
    string opened (text.flatMap Writer.escapeChar ++ '"' :: rest) = .ok (text, rest) := by
  obtain ⟨found, read, joined⟩ := parts_written text rest opened []
  rw [string, read, List.reverse_nil, List.nil_append, Except.map, joined]

end Reader
end Json
end Wallboard
