import Mathlib.Data.List.Induction
import Wallboard.Markup.Tag
import Wallboard.Proofs.Text.Split

namespace Wallboard

namespace Text

theorem not_isBlank_comma : isBlank ',' = false := by decide

theorem strip_of_blank {text : Text} (blank : ∀ char ∈ text, isBlank char = true) :
    strip text = [] := by
  have nothing : text.dropWhile isBlank = [] := List.dropWhile_eq_nil_iff.mpr blank
  rw [strip, trim, nothing]
  rfl

theorem strip_strip (text : Text) : strip (strip text) = strip text :=
  strip_of_trimmed (trimmed_strip text)

end Text

namespace Tag

/-- The arguments of a tag after stripping. A tag without a colon has none. -/
def stripped (body : Text) : List Text :=
  match (Text.cut ':' body).2 with
  | none => []
  | some rest => (Text.splitAt ',' rest).map Text.strip

/-- As many stripped arguments as are allowed, without the blank ones at the end. -/
def significant (arity : Nat) (body : Text) : List Text :=
  ((stripped body).take arity).rdropWhile List.isEmpty

def written (name : Text) (arguments : List Text) : Text :=
  name ++ ':' :: Text.join [','] arguments

variable {name left right : Text} {arguments : List Text}

theorem arguments_eq_take (arity : Nat) (body : Text) :
    Tag.arguments arity (Text.cut ':' body).2 = (stripped body).take arity := by
  unfold stripped
  cases (Text.cut ':' body).2 with
  | none => simp [Tag.arguments]
  | some rest => rfl

theorem argument?_append_blank (arguments : List Text) (place : Nat) :
    argument? (arguments ++ [[]]) place = argument? arguments place := by
  unfold argument?
  rcases Nat.lt_trichotomy place arguments.length with inside | rfl | beyond
  · rw [List.getElem?_append_left inside]
  · simp
  · have behind : (arguments ++ [[]]).length ≤ place := by
      rw [List.length_append, List.length_singleton]
      omega
    rw [List.getElem?_eq_none behind, List.getElem?_eq_none (Nat.le_of_lt beyond)]

theorem argument?_rdropWhile (arguments : List Text) (place : Nat) :
    argument? (arguments.rdropWhile List.isEmpty) place = argument? arguments place := by
  induction arguments using List.reverseRecOn with
  | nil => rfl
  | append_singleton front last ih =>
      cases last with
      | nil => rw [List.rdropWhile_concat_pos _ _ _ rfl, ih, argument?_append_blank]
      | cons head tail => rw [List.rdropWhile_concat_neg _ _ _ (by simp)]

theorem buildKind_congr {left right : List Text}
    (agree : ∀ place, argument? left place = argument? right place) (kind : TagKind) :
    buildKind kind left = buildKind kind right := by
  cases kind with
  | mass => simp only [buildKind, buildMass, agree]
  | item => simp only [buildKind, buildItem, agree]
  | gas => simp only [buildKind, buildGas, agree]
  | gps => simp only [buildKind, buildCoordinate, agree]
  | power => simp only [buildKind, buildPower, agree]

theorem buildKind_of_significant {kind : TagKind}
    (agree : significant kind.arity left = significant kind.arity right) :
    buildKind kind (Tag.arguments kind.arity (Text.cut ':' left).2) =
      buildKind kind (Tag.arguments kind.arity (Text.cut ':' right).2) := by
  apply buildKind_congr
  intro place
  calc
    argument? (Tag.arguments kind.arity (Text.cut ':' left).2) place
        = argument? (significant kind.arity left) place := by
      rw [arguments_eq_take, significant, argument?_rdropWhile]
    _ = argument? (significant kind.arity right) place := by rw [agree]
    _ = argument? (Tag.arguments kind.arity (Text.cut ':' right).2) place := by
      rw [arguments_eq_take, significant, argument?_rdropWhile]

theorem ofName?_eq_some_iff {kind : TagKind} :
    TagKind.ofName? name = some kind ↔ kind.name = name := by
  constructor
  · intro known
    have matched := List.find?_some known
    exact of_decide_eq_true matched
  · rintro rfl
    cases kind <;> decide

theorem build_of_significant (named : (Text.cut ':' left).1 = (Text.cut ':' right).1)
    (agree : ∀ kind : TagKind, kind.name = (Text.cut ':' left).1 →
      significant kind.arity left = significant kind.arity right) :
    build left = build right := by
  simp only [build, ← named]
  cases known : TagKind.ofName? (Text.cut ':' left).1 with
  | none => rfl
  | some kind => exact buildKind_of_significant (agree kind (ofName?_eq_some_iff.mp known))

theorem cut_written (unmarked : ':' ∉ name) (arguments : List Text) :
    Text.cut ':' (written name arguments) = (name, some (Text.join [','] arguments)) :=
  Text.cut_append unmarked _

theorem rdropWhile_take_append_blank (arguments : List Text) (arity : Nat) :
    ((arguments ++ [[]]).take arity).rdropWhile List.isEmpty =
      (arguments.take arity).rdropWhile List.isEmpty := by
  rw [List.take_append]
  cases arity - arguments.length with
  | zero => simp
  | succ more =>
      rw [List.take_succ_cons, List.take_nil]
      exact List.rdropWhile_concat_pos List.isEmpty _ [] rfl

theorem significant_written (unmarked : ':' ∉ name)
    (separate : ∀ argument ∈ arguments, ',' ∉ argument) (arity : Nat) :
    significant arity (written name arguments) =
      ((arguments.map Text.strip).take arity).rdropWhile List.isEmpty := by
  simp only [significant, stripped, cut_written unmarked]
  cases arguments with
  | nil =>
      have single : (Text.splitAt ',' (Text.join [','] [])).map Text.strip = [] ++ [[]] := by decide
      rw [single, rdropWhile_take_append_blank]
      rfl
  | cons first rest => rw [Text.splitAt_join (List.cons_ne_nil first rest) separate]

theorem significant_of_unmarked (unmarked : ':' ∉ name) (arity : Nat) :
    significant arity name = [] := by
  simp [significant, stripped, Text.cut_eq_self_of_not_mem unmarked]

theorem build_written_congr {others : List Text} (unmarked : ':' ∉ name)
    (separate : ∀ argument ∈ arguments, ',' ∉ argument)
    (otherwise : ∀ argument ∈ others, ',' ∉ argument)
    (agree : ∀ kind : TagKind, kind.name = name →
      ((others.map Text.strip).take kind.arity).rdropWhile List.isEmpty =
        ((arguments.map Text.strip).take kind.arity).rdropWhile List.isEmpty) :
    build (written name others) = build (written name arguments) := by
  apply build_of_significant
  · rw [cut_written unmarked, cut_written unmarked]
  · intro kind named
    rw [cut_written unmarked] at named
    rw [significant_written unmarked otherwise, significant_written unmarked separate]
    exact agree kind named

theorem build_written_strip (unmarked : ':' ∉ name)
    (separate : ∀ argument ∈ arguments, ',' ∉ argument) :
    build (written name (arguments.map Text.strip)) = build (written name arguments) := by
  apply build_written_congr unmarked separate
  · intro argument member inside
    obtain ⟨raw, among, rfl⟩ := List.mem_map.mp member
    exact separate raw among (Text.mem_of_mem_strip inside)
  · intro kind named
    have again : Text.strip ∘ Text.strip = Text.strip := funext Text.strip_strip
    rw [List.map_map, again]

theorem build_written_append_blank (unmarked : ':' ∉ name)
    (separate : ∀ argument ∈ arguments, ',' ∉ argument) {blank : Text}
    (white : ∀ char ∈ blank, Text.isBlank char = true) :
    build (written name (arguments ++ [blank])) = build (written name arguments) := by
  apply build_written_congr unmarked separate
  · intro argument member inside
    rcases List.mem_append.mp member with among | last
    · exact separate argument among inside
    · rw [List.mem_singleton.mp last] at inside
      have space := white ',' inside
      rw [Text.not_isBlank_comma] at space
      cases space
  · intro kind named
    rw [List.map_append, List.map_singleton, Text.strip_of_blank white]
    exact rdropWhile_take_append_blank _ _

theorem build_append_colon (unmarked : ':' ∉ name) : build (name ++ [':']) = build name := by
  have bare : name ++ [':'] = written name [] := rfl
  rw [bare]
  apply build_of_significant
  · rw [cut_written unmarked, Text.cut_eq_self_of_not_mem unmarked]
  · intro kind _
    rw [significant_written unmarked (by simp), significant_of_unmarked unmarked]
    simp

theorem build_written_append_surplus (unmarked : ':' ∉ name)
    (separate : ∀ argument ∈ arguments, ',' ∉ argument) {surplus : List Text}
    (alsoSeparate : ∀ argument ∈ surplus, ',' ∉ argument)
    (enough : ∀ kind : TagKind, kind.name = name → kind.arity ≤ arguments.length) :
    build (written name (arguments ++ surplus)) = build (written name arguments) := by
  apply build_written_congr unmarked separate
  · intro argument member
    rcases List.mem_append.mp member with among | among
    · exact separate argument among
    · exact alsoSeparate argument among
  · intro kind named
    have complete : kind.arity ≤ (arguments.map Text.strip).length := by
      rw [List.length_map]
      exact enough kind named
    rw [List.map_append, List.take_append_of_le_length complete]

/-- Tags with the same text before the colon have the same outcome, the same element or the same
error, if their arguments agree after they are stripped, cut to the number that the kind allows and
rid of blank ones at the end. So white space around arguments, a blank argument at the end, a colon
without arguments and arguments beyond those of the kind do not matter. -/
theorem build_by_significant_arguments :
    (∀ left right : Text, (Text.cut ':' left).1 = (Text.cut ':' right).1 →
      (∀ kind : TagKind, kind.name = (Text.cut ':' left).1 →
        significant kind.arity left = significant kind.arity right) →
      build left = build right) ∧
    ∀ (name : Text) (arguments : List Text), ':' ∉ name → (∀ argument ∈ arguments, ',' ∉ argument) →
      build (written name (arguments.map Text.strip)) = build (written name arguments) ∧
      (∀ blank : Text, (∀ char ∈ blank, Text.isBlank char = true) →
        build (written name (arguments ++ [blank])) = build (written name arguments)) ∧
      build (name ++ [':']) = build name ∧
      ∀ surplus : List Text, (∀ argument ∈ surplus, ',' ∉ argument) →
        (∀ kind : TagKind, kind.name = name → kind.arity ≤ arguments.length) →
        build (written name (arguments ++ surplus)) = build (written name arguments) := by
  constructor
  · intro left right named agree
    exact build_of_significant named agree
  · intro name arguments unmarked separate
    refine ⟨build_written_strip unmarked separate, ?_, build_append_colon unmarked, ?_⟩
    · intro blank white
      exact build_written_append_blank unmarked separate white
    · intro surplus alsoSeparate enough
      exact build_written_append_surplus unmarked separate alsoSeparate enough

/-- A coordinate with spaces around its arguments and a fourth one, and a refused pad width with a
blank scale after it. -/
theorem build_with_spaces_and_surplus :
    build "gps: x ,,\t3,4".toList = build "gps:x,,3".toList ∧
      build "gps:x,,3".toList = .ok (.coordinate .x none 3) ∧
      build "item:Ice, -1 ,\u2003".toList = build "item:Ice,-1".toList ∧
      build "item:Ice,-1".toList =
        .error (.rejected (.invalidOption .item (.negative .padWidth (-1)))) ∧
      build "item:".toList = build "item".toList := by
  have agree := build_by_significant_arguments.1
  have rules := build_by_significant_arguments.2 "item".toList ["Ice".toList, "-1".toList]
    (by decide) (by decide)
  refine ⟨?_, by decide +kernel, ?_, by decide +kernel, rules.2.2.1⟩
  · apply agree
    · decide
    · intro kind named
      cases kind <;> revert named <;> decide
  · apply agree
    · decide
    · intro kind named
      cases kind <;> revert named <;> decide

end Tag
end Wallboard
