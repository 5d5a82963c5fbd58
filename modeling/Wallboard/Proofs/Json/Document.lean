import Wallboard.Json.Encoding
import Wallboard.Proofs.Json.Escape
import Wallboard.Proofs.Json.Limit
import Wallboard.Proofs.Json.Number
import Wallboard.Proofs.Keyed
import Wallboard.Proofs.Text.Split

namespace Wallboard.Json

mutual

/-- A value of strings and objects only, in which no object has a name twice. -/
def IsTextual : Json → Prop
  | .string _ => True
  | .object members => Keyed.Distinct members ∧ AreTextual members
  | _ => False

def AreTextual : List (Text × Json) → Prop
  | [] => True
  | (_, value) :: rest => IsTextual value ∧ AreTextual rest

end

mutual

/-- A value of strings, numbers and objects only, in which no object has a name twice. Its integers
are within the limit and its doubles finite. -/
def IsPlain : Json → Prop
  | .int value => Integer.WithinLimit value
  | .double value => value.isFinite = true
  | .string _ => True
  | .object members => Keyed.Distinct members ∧ ArePlain members
  | _ => False

def ArePlain : List (Text × Json) → Prop
  | [] => True
  | (_, value) :: rest => IsPlain value ∧ ArePlain rest

end

mutual

theorem IsTextual.isPlain : ∀ {found : Json}, IsTextual found → IsPlain found
  | .string _, _ => trivial
  | .object _, textual => ⟨textual.1, textual.2.arePlain⟩

theorem AreTextual.arePlain : ∀ {members : List (Text × Json)}, AreTextual members →
    ArePlain members
  | [], _ => trivial
  | (_, _) :: _, textual => ⟨textual.1.isPlain, textual.2.arePlain⟩

end

theorem arePlain_map {α : Type} {entries : List α} {written : α → Text × Json}
    (each : ∀ entry ∈ entries, IsPlain (written entry).2) : ArePlain (entries.map written) := by
  induction entries with
  | nil => trivial
  | cons entry rest ih =>
      obtain ⟨first, later⟩ := List.forall_mem_cons.mp each
      exact ⟨first, ih later⟩

namespace Writer

theorem double_of_finite {value : Binary64} (finite : value.isFinite = true) :
    double value = value.text := by
  simp [double, Binary64.isNan_of_isFinite finite, finite]

def lines (level : Nat) (members : List (Text × Json)) : Text :=
  Text.join (',' :: newline level) (Writer.members level members)

theorem lines_single (level : Nat) (name : Text) (found : Json) :
    lines level [(name, found)] = string name ++ ": ".toList ++ value level found := rfl

theorem lines_cons (level : Nat) (name : Text) (found : Json) (next : Text × Json)
    (rest : List (Text × Json)) :
    lines level ((name, found) :: next :: rest) =
      string name ++ ": ".toList ++ value level found ++ ',' :: newline level ++
        lines level (next :: rest) := by
  rcases next with ⟨other, shown⟩
  simp only [lines, members, Text.join]

theorem value_object (level : Nat) (entry : Text × Json) (rest : List (Text × Json)) :
    value level (.object (entry :: rest)) =
      '{' :: newline (level + 1) ++ lines (level + 1) (entry :: rest) ++ newline level ++
        ['}'] := by
  rcases entry with ⟨name, found⟩
  simp only [value, block, members, lines, List.isEmpty_cons, Bool.false_eq_true, if_false]

theorem value_head {found : Json} (plain : IsPlain found) (level : Nat) :
    ∃ head tail, value level found = head :: tail ∧ Reader.isSpace head = false := by
  cases found with
  | int number =>
      rw [value, Reader.Literal.text_ofInt]
      exact (Reader.Literal.proper_ofInt number).solid _
  | double double =>
      obtain ⟨literal, proper, _, text⟩ := Reader.exists_literal plain
      rw [value, double_of_finite plain, text]
      exact proper.solid _
  | string text => exact ⟨'"', _, rfl, rfl⟩
  | object members =>
      cases members with
      | nil => exact ⟨'{', _, rfl, rfl⟩
      | cons entry rest =>
          rw [value_object]
          exact ⟨'{', _, rfl, rfl⟩
  | _ => exact plain.elim

theorem lines_head (level : Nat) (entry : Text × Json) (rest : List (Text × Json)) :
    ∃ tail, lines level (entry :: rest) = '"' :: tail := by
  rcases entry with ⟨name, found⟩
  cases rest with
  | nil => exact ⟨_, rfl⟩
  | cons next rest =>
      rw [lines_cons]
      exact ⟨_, rfl⟩

theorem return_not_mem_newline (level : Nat) : '\r' ∉ newline level := by
  intro member
  rcases List.mem_cons.mp member with same | member
  · exact absurd same (by decide)
  · exact absurd (List.eq_of_mem_replicate member) (by decide)

mutual

theorem return_not_mem_value : ∀ {found : Json}, IsTextual found → ∀ level,
    '\r' ∉ value level found
  | .string text, _, level => return_not_mem_string text
  | .object [], _, level => (by decide : '\r' ∉ ['{', '}'])
  | .object (entry :: rest), textual, level => by
      have inside : '\r' ∉ lines (level + 1) (entry :: rest) := by
        intro member
        rcases Text.mem_of_mem_join member with separator | ⟨piece, among, member⟩
        · simp [return_not_mem_newline] at separator
        · exact return_not_mem_members textual.2 (level + 1) piece among member
      rw [value_object]
      simp [return_not_mem_newline, inside]

theorem return_not_mem_members : ∀ {entries : List (Text × Json)}, AreTextual entries →
    ∀ level, ∀ piece ∈ members level entries, '\r' ∉ piece
  | [], _, _, piece, member => by cases member
  | (name, found) :: rest, textual, level, piece, member => by
      rcases List.mem_cons.mp member with rfl | member
      · simp [return_not_mem_string, return_not_mem_value textual.1]
      · exact return_not_mem_members textual.2 level piece member

end

end Writer

namespace Reader

theorem skipSpaces_solid {head : Char} (solid : isSpace head = false) (tail : Text) :
    skipSpaces (head :: tail) = head :: tail := by
  simp [skipSpaces, solid]

theorem skipSpaces_newline (level : Nat) (rest : Text) :
    skipSpaces (Writer.newline level ++ rest) = skipSpaces rest := by
  have spaces : ∀ char ∈ Writer.newline level, isSpace char = true := by
    intro char member
    rcases List.mem_cons.mp member with rfl | member
    · rfl
    · rw [List.eq_of_mem_replicate member]
      rfl
  exact List.dropWhile_append_of_pos spaces

theorem skipSpaces_value {found : Json} (plain : IsPlain found) (level : Nat) (rest : Text) :
    skipSpaces (Writer.value level found ++ rest) = Writer.value level found ++ rest := by
  obtain ⟨head, tail, shape, solid⟩ := Writer.value_head plain level
  rw [shape, List.cons_append, skipSpaces_solid solid]

variable {admits : Integer.Numeral → Bool} {fuel : Nat} {name text after rest : Text}
  {found : Json}

theorem value_object {input : Text} {entries : List (Text × Json)}
    (start : skipSpaces input = '"' :: after)
    (read : members admits fuel ('"' :: after) = .ok (entries, rest)) :
    value admits (fuel + 1) ('{' :: input) = .ok (.object entries, rest) := by
  simp [value, start, read, bind, Except.bind]

theorem members_last (start : skipSpaces text = text)
    (read : value admits fuel text = .ok (found, after)) (ending : skipSpaces after = '}' :: rest) :
    members admits (fuel + 1) (Writer.string name ++ ": ".toList ++ text) =
      .ok ([(name, found)], rest) := by
  have colon : skipSpaces (": ".toList ++ text) = ':' :: ' ' :: text := rfl
  have space : skipSpaces (' ' :: text) = text := start
  simp only [Writer.string, List.cons_append, List.append_assoc, List.nil_append, members,
    string_written, bind, Except.bind, colon, space, read, ending]

theorem members_next {more : Text} {others : List (Text × Json)}
    (start : skipSpaces text = text) (read : value admits fuel text = .ok (found, after))
    (comma : skipSpaces after = ',' :: more)
    (next : members admits fuel (skipSpaces more) = .ok (others, rest)) :
    members admits (fuel + 1) (Writer.string name ++ ": ".toList ++ text) =
      .ok ((name, found) :: others, rest) := by
  have colon : skipSpaces (": ".toList ++ text) = ':' :: ' ' :: text := rfl
  have space : skipSpaces (' ' :: text) = text := start
  simp only [Writer.string, List.cons_append, List.append_assoc, List.nil_append, members,
    string_written, bind, Except.bind, colon, space, read, comma, next]

/-- A reader that takes all numerals within the limit. -/
def Wide (admits : Integer.Numeral → Bool) : Prop :=
  ∀ numeral, numeral.digits.length ≤ Integer.digitLimit → admits numeral = true

theorem endsNumber_comma (rest : Text) : EndsNumber (',' :: rest) := by
  intro char lead
  obtain rfl : ',' = char := Option.some.inj lead
  decide

theorem endsNumber_of_ending {tail : Text} (ending : skipSpaces tail = '}' :: rest) :
    EndsNumber tail := by
  intro char lead
  obtain ⟨others, rfl⟩ := List.head?_eq_some_iff.mp lead
  by_cases space : isSpace char = true
  · simp only [isSpace, Bool.or_eq_true, beq_iff_eq] at space
    rcases space with ((rfl | rfl) | rfl) | rfl <;> decide
  · rw [skipSpaces_solid (Bool.eq_false_iff.mpr space)] at ending
    rw [(List.cons.inj ending).1]
    decide

mutual

/-- The written form of a value is read as that value, where no number goes on after it. A fuel of
its length is enough, as each nested value starts at a later character. -/
theorem value_written (wide : Wide admits) : ∀ {found : Json}, IsPlain found →
    ∀ {level fuel : Nat}, (Writer.value level found).length ≤ fuel → ∀ {rest}, EndsNumber rest →
      value admits fuel (Writer.value level found ++ rest) = .ok (found, rest)
  | .int number, short, level, fuel, enough, rest, ends => by
      obtain ⟨head, tail, shape, _⟩ := @Writer.value_head (.int number) short level
      rw [shape, List.length_cons] at enough
      obtain ⟨less, rfl⟩ := Nat.exists_eq_succ_of_ne_zero (Nat.ne_of_gt (Nat.zero_lt_of_lt enough))
      exact value_int ends (wide _ short) less
  | .double number, finite, level, fuel, enough, rest, ends => by
      obtain ⟨head, tail, shape, _⟩ := @Writer.value_head (.double number) finite level
      rw [shape, List.length_cons] at enough
      obtain ⟨less, rfl⟩ := Nat.exists_eq_succ_of_ne_zero (Nat.ne_of_gt (Nat.zero_lt_of_lt enough))
      rw [Writer.value, Writer.double_of_finite finite]
      exact value_double finite ends less
  | .string text, _, level, fuel + 1, _, rest, _ => by
      simp only [Writer.value, Writer.string, List.cons_append, List.append_assoc,
        List.nil_append, value, string_written]
      rfl
  | .object [], _, level, fuel + 1, _, rest, _ => rfl
  | .object (entry :: others), plain, level, fuel + 1, enough, rest, _ => by
      rw [Writer.value_object] at enough ⊢
      have fits : (Writer.lines (level + 1) (entry :: others)).length ≤ fuel := by
        simp only [List.length_cons, List.length_append] at enough
        omega
      have ending : skipSpaces (Writer.newline level ++ '}' :: rest) = '}' :: rest := by
        rw [skipSpaces_newline, skipSpaces_solid rfl]
      have read := members_written wide plain.2 fits ending
      obtain ⟨after, quote⟩ := Writer.lines_head (level + 1) entry others
      rw [quote, List.cons_append] at read
      have start : skipSpaces (Writer.newline (level + 1) ++
          ('"' :: (after ++ (Writer.newline level ++ '}' :: rest)))) =
            '"' :: (after ++ (Writer.newline level ++ '}' :: rest)) := by
        rw [skipSpaces_newline, skipSpaces_solid rfl]
      simpa [quote] using value_object start read

theorem members_written (wide : Wide admits) : ∀ {entry : Text × Json}
    {others : List (Text × Json)}, ArePlain (entry :: others) → ∀ {level fuel : Nat},
      (Writer.lines level (entry :: others)).length ≤ fuel → ∀ {tail rest : Text},
        skipSpaces tail = '}' :: rest →
          members admits fuel (Writer.lines level (entry :: others) ++ tail) =
            .ok (entry :: others, rest)
  | (name, found), [], plain, level, fuel + 1, enough, tail, rest, ending => by
      rw [Writer.lines_single] at enough ⊢
      have fits : (Writer.value level found).length ≤ fuel := by
        simp only [Writer.string, List.length_cons, List.length_append] at enough
        omega
      have read := value_written wide plain.1 fits (endsNumber_of_ending ending)
      rw [List.append_assoc]
      exact members_last (skipSpaces_value plain.1 level tail) read ending
  | (name, found), next :: others, plain, level, fuel + 1, enough, tail, rest, ending => by
      rw [Writer.lines_cons] at enough ⊢
      simp only [Writer.string, List.length_cons, List.length_append] at enough
      have fits : (Writer.value level found).length ≤ fuel := by omega
      have othersFit : (Writer.lines level (next :: others)).length ≤ fuel := by omega
      -- What follows the comma gets a name, so that the first value is read with it as a whole.
      obtain ⟨more, following⟩ :
          ∃ more, more = Writer.newline level ++ (Writer.lines level (next :: others) ++ tail) :=
        ⟨_, rfl⟩
      have read := value_written wide plain.1 fits (endsNumber_comma more)
      have readOthers := members_written wide plain.2 othersFit ending
      have start : skipSpaces more = Writer.lines level (next :: others) ++ tail := by
        obtain ⟨after, quote⟩ := Writer.lines_head level next others
        rw [following, skipSpaces_newline, quote, List.cons_append, skipSpaces_solid rfl]
      rw [← start] at readOthers
      have all : members admits (fuel + 1) (Writer.string name ++ ": ".toList ++
          (Writer.value level found ++ ',' :: more)) =
            .ok ((name, found) :: next :: others, rest) :=
        members_next (skipSpaces_value plain.1 level _) read (skipSpaces_solid rfl more) readOthers
      simpa [following] using all

end

end Reader

mutual

theorem settled_plain : ∀ {found : Json}, IsPlain found → found.settled = found
  | .int _, _ => rfl
  | .double _, _ => rfl
  | .string _, _ => rfl
  | .object _, plain => by
      rw [settled, settledMembers_plain plain.2, plain.1.putAll_nil]

theorem settledMembers_plain : ∀ {members : List (Text × Json)}, ArePlain members →
    settledMembers members = members
  | [], _ => rfl
  | (_, _) :: _, plain => by
      rw [settledMembers, settled_plain plain.1, settledMembers_plain plain.2]

end

theorem read_write {found : Json} (plain : IsPlain found) : read (write found) = .ok found := by
  have start : Reader.skipSpaces (write found) = write found := by
    simpa [write] using Reader.skipSpaces_value plain 0 []
  have wide : Reader.Wide fun numeral => decide (numeral.digits.length ≤ Integer.digitLimit) :=
    fun numeral short => decide_eq_true short
  have value : Reader.value (fun numeral => decide (numeral.digits.length ≤ Integer.digitLimit))
      (2 * (write found).length + 2) (write found) = .ok (found, []) := by
    simpa [write] using Reader.value_written wide plain (by omega) Reader.EndsNumber.nil
  have document : Reader.document
      (fun numeral => decide (numeral.digits.length ≤ Integer.digitLimit)) (write found) =
        .ok found := by
    simp only [Reader.document, start, value]
    rfl
  rw [read, document]
  exact congrArg Except.ok (settled_plain plain)

theorem sentText?_write (members : List (Text × Json)) :
    sentText? (write (.object members)) = some (write (.object members)) := by
  cases members with
  | nil => rfl
  | cons entry rest =>
      rw [write, Writer.value_object]
      rfl

end Wallboard.Json
