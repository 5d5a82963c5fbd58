import Mathlib.Data.List.DropRight
import Wallboard.Text.Blank

namespace Wallboard.Text

variable {mark char : Char} {text piece : Text}

theorem splitAt_append (absent : mark ∉ piece) (rest : Text) :
    splitAt mark (piece ++ mark :: rest) = piece :: splitAt mark rest := by
  induction piece with
  | nil => simp [splitAt]
  | cons head tail ih =>
      simp only [List.mem_cons, not_or] at absent
      simp [splitAt, ih absent.2, Ne.symm absent.1]

theorem splitAt_join {pieces : List Text} (filled : pieces ≠ [])
    (absent : ∀ piece ∈ pieces, mark ∉ piece) : splitAt mark (join [mark] pieces) = pieces := by
  induction pieces with
  | nil => contradiction
  | cons piece rest ih =>
      have plain : mark ∉ piece := absent piece List.mem_cons_self
      cases rest with
      | nil => exact splitAt_eq_self_of_not_mem plain
      | cons next rest =>
          have tail : splitAt mark (join [mark] (next :: rest)) = next :: rest :=
            ih (by simp) fun other member => absent other (List.mem_cons_of_mem piece member)
          have shape : join [mark] (piece :: next :: rest) =
              piece ++ mark :: join [mark] (next :: rest) := by
            simp [join]
          rw [shape, splitAt_append plain, tail]

theorem join_cons (separator piece : Text) {pieces : List Text} (filled : pieces ≠ []) :
    join separator (piece :: pieces) = piece ++ separator ++ join separator pieces := by
  cases pieces with
  | nil => contradiction
  | cons next rest => simp [join]

theorem mem_of_mem_join {separator : Text} {pieces : List Text}
    (member : char ∈ join separator pieces) :
    char ∈ separator ∨ ∃ piece ∈ pieces, char ∈ piece := by
  induction pieces with
  | nil => cases member
  | cons piece rest ih =>
      cases rest with
      | nil => exact Or.inr ⟨piece, List.mem_cons_self, member⟩
      | cons next rest =>
          rw [join, List.mem_append, List.mem_append] at member
          · rcases member with (member | member) | member
            · exact Or.inr ⟨piece, List.mem_cons_self, member⟩
            · exact Or.inl member
            · rcases ih member with found | ⟨other, among, found⟩
              · exact Or.inl found
              · exact Or.inr ⟨other, List.mem_cons_of_mem piece among, found⟩
          · simp

theorem cut_run {run : Text} (absent : mark ∉ run) (rest : Text) :
    cut mark (run ++ rest) = (run ++ (cut mark rest).1, (cut mark rest).2) := by
  induction run with
  | nil => rfl
  | cons head tail ih =>
      simp only [List.mem_cons, not_or] at absent
      simp [cut, ih absent.2, Ne.symm absent.1]

theorem not_mem_cut (mark : Char) (text : Text) : mark ∉ (cut mark text).1 := by
  induction text with
  | nil => exact List.not_mem_nil
  | cons head tail ih =>
      by_cases marked : head = mark
      · simp [cut, marked]
      · simp [cut, marked, ih, Ne.symm marked]

theorem cut_isPrefix (mark : Char) (text : Text) : (cut mark text).1 <+: text := by
  induction text with
  | nil => exact List.prefix_refl []
  | cons head tail ih =>
      by_cases marked : head = mark
      · simp [cut, marked]
      · simp only [cut, marked, if_false]
        exact (List.prefix_cons_inj head).mpr ih

theorem cut_eq_some {after : Text} (found : (cut mark text).2 = some after) :
    text = (cut mark text).1 ++ mark :: after := by
  induction text with
  | nil => cases found
  | cons head tail ih =>
      by_cases marked : head = mark
      · simp only [cut, marked, if_true, Option.some.injEq] at found
        simp [cut, marked, found]
      · simp only [cut, marked, if_false] at found
        simpa [cut, marked] using ih found

theorem splitAt_cons_of_ne {head : Char} (plain : head ≠ mark) (tail : Text) :
    ∃ first rest, splitAt mark tail = first :: rest ∧
      splitAt mark (head :: tail) = (head :: first) :: rest := by
  obtain ⟨first, rest, pieces⟩ := List.exists_cons_of_ne_nil (splitAt_ne_nil mark tail)
  exact ⟨first, rest, pieces, by simp [splitAt, plain, pieces]⟩

theorem join_splitAt (mark : Char) (text : Text) : join [mark] (splitAt mark text) = text := by
  induction text with
  | nil => rfl
  | cons head tail ih =>
      by_cases marked : head = mark
      · rw [splitAt, if_pos marked, join_cons _ _ (splitAt_ne_nil mark tail), ih, marked]
        rfl
      · obtain ⟨first, rest, pieces, split⟩ := splitAt_cons_of_ne marked tail
        rw [pieces] at ih
        rw [split, ← ih]
        cases rest with
        | nil => rfl
        | cons next rest => simp [join]

theorem length_join_le (separator : Text) {part pieces : List Text} (among : part.Sublist pieces) :
    (join separator part).length ≤ (join separator pieces).length := by
  induction among with
  | slnil => exact Nat.le_refl _
  | @cons part pieces piece among ih =>
      cases pieces with
      | nil =>
          cases among
          exact Nat.zero_le _
      | cons next rest =>
          rw [join_cons separator piece (List.cons_ne_nil next rest), List.length_append]
          omega
  | @cons_cons part pieces piece among ih =>
      cases part with
      | nil =>
          cases pieces with
          | nil => exact Nat.le_refl _
          | cons next rest => simp [join]
      | cons next rest =>
          have filled : pieces ≠ [] := by
            rintro rfl
            cases among
          rw [join_cons separator piece (List.cons_ne_nil next rest),
            join_cons separator piece filled]
          simp only [List.length_append]
          omega

theorem of_mem_splitAt (member : piece ∈ splitAt mark text) :
    mark ∉ piece ∧ ∀ char ∈ piece, char ∈ text := by
  induction text generalizing piece with
  | nil =>
      obtain rfl : piece = [] := by simpa [splitAt] using member
      simp
  | cons head tail ih =>
      have later {other : Text} (found : other ∈ splitAt mark tail) :
          mark ∉ other ∧ ∀ char ∈ other, char ∈ head :: tail := by
        obtain ⟨absent, part⟩ := ih found
        exact ⟨absent, fun char inside => List.mem_cons_of_mem head (part char inside)⟩
      by_cases marked : head = mark
      · simp only [splitAt, marked, if_true, List.mem_cons] at member
        rcases member with rfl | member
        · simp
        · exact later member
      · obtain ⟨first, rest, pieces, split⟩ := splitAt_cons_of_ne marked tail
        rw [split] at member
        rcases List.mem_cons.mp member with rfl | member
        · obtain ⟨absent, part⟩ := later (pieces ▸ List.mem_cons_self : first ∈ splitAt mark tail)
          constructor
          · simpa [Ne.symm marked] using absent
          · intro char inside
            rcases List.mem_cons.mp inside with rfl | inside
            · exact List.mem_cons_self
            · exact part char inside
        · exact later (pieces ▸ List.mem_cons_of_mem first member)

def Trimmed (text : Text) : Prop :=
  (∀ char ∈ text.head?, isBlank char = false) ∧ ∀ char ∈ text.getLast?, isBlank char = false

theorem dropWhile_of_head {drops : Char → Bool}
    (solid : ∀ char ∈ text.head?, drops char = false) : text.dropWhile drops = text := by
  cases text with
  | nil => rfl
  | cons head tail => simp [solid head rfl]

theorem strip_of_trimmed (trimmed : Trimmed text) : strip text = text := by
  have front : text.dropWhile isBlank = text := dropWhile_of_head trimmed.1
  have back : text.reverse.dropWhile isBlank = text.reverse :=
    dropWhile_of_head (by simpa using trimmed.2)
  rw [strip, trim, front, back, List.reverse_reverse]

theorem head_of_dropWhile {drops : Char → Bool}
    (first : char ∈ (text.dropWhile drops).head?) : drops char = false := by
  have kept := List.head?_dropWhile_not drops text
  rw [Option.mem_def.mp first] at kept
  simpa using kept

theorem strip_isPrefix (text : Text) : strip text <+: text.dropWhile isBlank := by
  have tail : (text.dropWhile isBlank).reverse.dropWhile isBlank <:+
      (text.dropWhile isBlank).reverse := List.dropWhile_suffix isBlank
  simpa [strip, trim] using List.reverse_prefix.mpr tail

theorem trimmed_strip (text : Text) : Trimmed (strip text) := by
  constructor
  · intro char first
    obtain ⟨dropped, shape⟩ := strip_isPrefix text
    have kept : char ∈ (text.dropWhile isBlank).head? := by
      rw [← shape, List.head?_append, Option.mem_def.mp first]
      rfl
    exact head_of_dropWhile kept
  · intro char last
    rw [strip, trim, List.getLast?_reverse] at last
    exact head_of_dropWhile last

theorem mem_of_mem_strip (member : char ∈ strip text) : char ∈ text :=
  (List.dropWhile_suffix isBlank).subset ((strip_isPrefix text).subset member)

theorem dropTrailing_append (mark : Char) (text : Text) :
    ∃ count, dropTrailing mark text ++ List.replicate count mark = text := by
  refine ⟨(text.rtakeWhile (· == mark)).length, ?_⟩
  have run : text.rtakeWhile (· == mark) =
      List.replicate (text.rtakeWhile (· == mark)).length mark := by
    rw [List.eq_replicate_iff]
    refine ⟨rfl, ?_⟩
    intro char member
    have marked : (char == mark) = true := @List.mem_rtakeWhile_imp _ (· == mark) text char member
    exact eq_of_beq marked
  rw [← run]
  exact List.rdropWhile_append_rtakeWhile

end Wallboard.Text
