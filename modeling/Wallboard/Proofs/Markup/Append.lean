import Wallboard.Proofs.Markup.RoundTrip
import Wallboard.Proofs.Markup.Rejection

namespace Wallboard

namespace Template

/-- Elements after elements, where two literals that meet become one. -/
def joined (first second : List Element) : List Element :=
  match first.getLast?, second.head? with
  | some (.literal left), some (.literal right) =>
      first.dropLast ++ .literal (left ++ right) :: second.tail
  | _, _ => first ++ second

theorem nil_joined (second : List Element) : joined [] second = second := rfl

theorem joined_nil (first : List Element) : joined first [] = first := by
  unfold joined
  cases first.getLast? <;> simp

theorem joined_literals (front back : List Element) (left right : Text) :
    joined (front ++ [.literal left]) (.literal right :: back) =
      front ++ .literal (left ++ right) :: back := by
  simp [joined]

theorem joined_of_apart {last next : Element}
    (apart : last.isLiteral = false ∨ next.isLiteral = false) (front back : List Element) :
    joined (front ++ [last]) (next :: back) = front ++ [last] ++ next :: back := by
  cases last <;> cases next <;> simp_all [joined, Element.isLiteral]

end Template

namespace Pieces

theorem elements_append (first second : Pieces) :
    elements (first ++ second) =
      (elements first >>= fun front => elements second >>= fun back => .ok (front ++ back)) := by
  induction first with
  | nil => cases made : elements second <;> simp [elements, made, bind, Except.bind]
  | cons piece rest ih =>
      simp only [List.cons_append, elements, ih]
      cases piece.element with
      | error fault => rfl
      | ok head =>
          cases elements rest with
          | error fault => rfl
          | ok tail => cases elements second <;> rfl

theorem elements_concat {front : Pieces} {last : Piece} {sound : List Element}
    (built : elements (front ++ [last]) = .ok sound) :
    ∃ others element, sound = others ++ [element] ∧ elements front = .ok others ∧
      last.element = .ok element := by
  simp only [elements_append, elements, bind_eq_ok_iff, Except.ok.injEq] at built
  obtain ⟨others, built, _, ⟨element, made, _, rfl, rfl⟩, rfl⟩ := built
  exact ⟨others, element, rfl, built, made⟩

theorem apart_iff_kinds {pieces : Pieces} :
    pieces.IsChain Piece.Apart ↔
      (pieces.map Piece.kind).IsChain fun first second => first = .tag ∨ second = .tag := by
  rw [List.isChain_map]
  rfl

theorem Proper.join_literals {front back : Pieces} {left right : Text}
    (first : Proper (front ++ [⟨.literal, left⟩])) (second : Proper (⟨.literal, right⟩ :: back)) :
    Proper (front ++ ⟨.literal, left ++ right⟩ :: back) := by
  have head : Piece.Proper ⟨.literal, left⟩ := first.each _ (by simp)
  have tail : Piece.Proper ⟨.literal, right⟩ := second.each _ List.mem_cons_self
  constructor
  · intro piece member
    rcases List.mem_append.mp member with member | member
    · exact first.each piece (List.mem_append_left _ member)
    · rcases List.mem_cons.mp member with rfl | member
      · exact ⟨by simp [head.1], by simpa using And.intro head.2 tail.2⟩
      · exact second.each piece (List.mem_cons_of_mem _ member)
  · have before := apart_iff_kinds.mp first.apart
    have after := apart_iff_kinds.mp second.apart
    rw [apart_iff_kinds, List.map_append, List.map_cons, List.isChain_split]
    rw [List.map_append] at before
    exact ⟨before, after⟩

theorem elements_append_of_apart {first second : Pieces} {sound : List Element}
    (left : first.Proper) (right : second.Proper) (built : elements first = .ok sound)
    (seam : ∀ last ∈ first.getLast?, ∀ next ∈ second.head?, Piece.Apart last next) :
    elements (first ++ second) = (elements second).map (Template.joined sound) := by
  rw [elements_append, built]
  cases made : elements second with
  | error fault => rfl
  | ok found =>
      suffices Template.joined sound found = sound ++ found by
        rw [Except.map, this]
        rfl
      rcases List.eq_nil_or_concat first with rfl | ⟨front, last, rfl⟩
      · obtain rfl : [] = sound := Except.ok.inj built
        exact Template.nil_joined found
      · rw [List.concat_eq_append] at left built seam
        obtain ⟨others, element, rfl, _, lastMade⟩ := elements_concat built
        cases second with
        | nil =>
            obtain rfl : [] = found := Except.ok.inj made
            rw [Template.joined_nil, List.append_nil]
        | cons next back =>
            obtain ⟨head, tail, headMade, _, rfl⟩ := elements_cons_eq_ok_iff.mp made
            have lastKind := (Element.canonical_of_read (left.each last (by simp)) lastMade).2
            have nextKind :=
              (Element.canonical_of_read (right.each next List.mem_cons_self) headMade).2
            have apart : Piece.Apart last next := seam last (by simp) next rfl
            apply Template.joined_of_apart
            rw [lastKind, nextKind]
            exact apart.imp (fun tag => by simp [tag]) (fun tag => by simp [tag])

theorem elements_join_literals {front back : Pieces} {left right : Text} {sound : List Element}
    (built : elements (front ++ [⟨.literal, left⟩]) = .ok sound) :
    elements (front ++ ⟨.literal, left ++ right⟩ :: back) =
      (elements (⟨.literal, right⟩ :: back)).map (Template.joined sound) := by
  obtain ⟨others, element, rfl, before, made⟩ := elements_concat built
  obtain rfl : .literal left = element := Except.ok.inj made
  have literal (run : Text) : elements (⟨.literal, run⟩ :: back) =
      (elements back).map (.literal run :: ·) := by
    cases made : elements back <;>
      simp [elements, Piece.element, made, bind, Except.bind, Except.map]
  rw [elements_append, before, literal, literal]
  cases elements back with
  | error fault => rfl
  | ok tail => simp [Except.map, bind, Except.bind, Template.joined_literals]

theorem exists_joined {first second : Pieces} {sound : List Element} (left : first.Proper)
    (right : second.Proper) (built : elements first = .ok sound) :
    ∃ pieces : Pieces, pieces.Proper ∧ pieces.text = first.text ++ second.text ∧
      elements pieces = (elements second).map (Template.joined sound) := by
  by_cases seam : ∀ last ∈ first.getLast?, ∀ next ∈ second.head?, Piece.Apart last next
  · exact ⟨first ++ second, left.append right seam, text_append first second,
      elements_append_of_apart left right built seam⟩
  · -- Two literals meet.
    simp only [not_forall] at seam
    obtain ⟨last, lastSeam, next, nextSeam, meet⟩ := seam
    obtain ⟨front, rfl⟩ := List.getLast?_eq_some_iff.mp lastSeam
    obtain ⟨back, rfl⟩ := List.head?_eq_some_iff.mp nextSeam
    rcases last with ⟨lastKind, leftText⟩
    rcases next with ⟨nextKind, rightText⟩
    cases lastKind with
    | tag => exact absurd (Or.inl rfl) meet
    | literal =>
        cases nextKind with
        | tag => exact absurd (Or.inr rfl) meet
        | literal =>
            exact ⟨front ++ ⟨.literal, leftText ++ rightText⟩ :: back, left.join_literals right,
              by simp [Piece.written], elements_join_literals built⟩

end Pieces

namespace Template

variable {first second : Text} {sound : List Element}

/-- What becomes of the template of some markup when valid markup of a given length is put
before it. -/
def after (length : Nat) (sound : List Element) : Template → Template
  | .valid elements => .valid (joined sound elements)
  | .invalid (.unterminatedTag offset) => .invalid (.unterminatedTag (length + offset))
  | .invalid error => .invalid error

theorem compile_after_valid (valid : compile first = .ok (.valid sound)) (second : Text) :
    compile (first ++ second) = (compile second).map (after first.length sound) := by
  obtain ⟨left, leftProper, rfl, built⟩ := compile_eq_valid_iff.mp valid
  obtain ⟨right, unclosed, rightProper, absent, rfl⟩ := Scan.exists_pieces second
  obtain ⟨pieces, proper, text, joinedElements⟩ :=
    Pieces.exists_joined leftProper rightProper built
  rw [← List.append_assoc, ← text, compile_text proper absent, compile_text rightProper absent,
    joinedElements]
  cases made : Pieces.elements right with
  | ok elements => cases unclosed <;> simp [Except.map, after, text]
  | error fault =>
      cases fault with
      | oversized numeral => rfl
      | rejected error =>
          obtain ⟨before, body, rest, _, _, _, wrong⟩ := Pieces.elements_eq_error_iff.mp made
          cases error with
          | unterminatedTag offset => exact absurd wrong Tag.build_not_unterminated
          | unknownElementKind kind => rfl
          | invalidOption kind fault => rfl

/-- The markup fails, and not for a tag that is left open. -/
def FailsAtTag (markup : Text) : Prop :=
  (∀ elements, compile markup ≠ .ok (.valid elements)) ∧
    ∀ offset, compile markup ≠ .ok (.invalid (.unterminatedTag offset))

theorem compile_before_failing (failing : FailsAtTag first) (second : Text) :
    compile (first ++ second) = compile first := by
  rcases compile_cases first with ⟨elements, valid⟩ | ⟨offset, opened⟩ | found
  · exact absurd valid (failing.1 elements)
  · exact absurd opened (failing.2 offset)
  · obtain ⟨before, body, rest, sound, fault, rfl, inside, valid, wrong⟩ := found
    have shape : before ++ '<' :: body ++ '>' :: rest ++ second =
        before ++ '<' :: body ++ '>' :: (rest ++ second) := by
      simp
    rw [shape, compile_failing_tag valid inside wrong, compile_failing_tag valid inside wrong]

theorem after_failing (failing : FailsAtTag second) (length : Nat) (sound : List Element) :
    (compile second).map (after length sound) = compile second := by
  cases outcome : compile second with
  | error numeral => rfl
  | ok template =>
      cases template with
      | valid elements => exact absurd outcome (failing.1 elements)
      | invalid error =>
          cases error with
          | unterminatedTag offset => exact absurd outcome (failing.2 offset)
          | unknownElementKind kind => rfl
          | invalidOption kind fault => rfl

/-- Markup put together from two parts: valid parts give the joined elements; after a valid part
a tag that is left open fails at its place in the whole, and any other failure stays as it is; a
failure of the first part for a closed tag is that of the whole. So the leftmost closed tag that
cannot be built decides, whatever comes after it. -/
theorem compile_append (first second : Text) :
    (∀ sound others, compile first = .ok (.valid sound) → compile second = .ok (.valid others) →
        compile (first ++ second) = .ok (.valid (joined sound others))) ∧
      (∀ sound offset, compile first = .ok (.valid sound) →
        compile second = .ok (.invalid (.unterminatedTag offset)) →
          compile (first ++ second) = .ok (.invalid (.unterminatedTag (first.length + offset)))) ∧
      (∀ sound, compile first = .ok (.valid sound) → FailsAtTag second →
        compile (first ++ second) = compile second) ∧
      (FailsAtTag first → compile (first ++ second) = compile first) ∧
      ∀ sound body fault, compile first = .ok (.valid sound) → '>' ∉ body →
        Tag.build body = .error fault →
          compile (first ++ '<' :: body ++ '>' :: second) = failure fault := by
  refine ⟨?_, ?_, ?_, ?_, ?_⟩
  · intro sound others valid also
    rw [compile_after_valid valid, also]
    rfl
  · intro sound offset valid opened
    rw [compile_after_valid valid, opened]
    rfl
  · intro sound valid failing
    rw [compile_after_valid valid, after_failing failing]
  · intro failing
    exact compile_before_failing failing second
  · intro sound body fault valid inside wrong
    exact compile_failing_tag valid inside wrong second

/-- Two literals that meet, a tag that is left open, and an unknown tag before or after it. -/
theorem parts_of_every_outcome :
    let first := "a<mass>b".toList
    let unknown := "c<volume>d<mass".toList
    compile (first ++ "c<mass:dry>".toList) =
        .ok (.valid [.literal ['a'], .mass none false, .literal ['b', 'c'], .mass none true]) ∧
      compile (first ++ "c<mass".toList) = .ok (.invalid (.unterminatedTag 9)) ∧
      compile (first ++ unknown) = .ok (.invalid (.unknownElementKind "volume".toList)) ∧
      compile (unknown ++ ">".toList) = .ok (.invalid (.unknownElementKind "volume".toList)) ∧
      compile (first ++ '<' :: "gps:W".toList ++ '>' :: "<mass".toList) =
        .ok (.invalid (.invalidOption .gps (.axisUnknown ['W']))) := by
  intro first unknown
  have valid : compile first =
      .ok (.valid [.literal ['a'], .mass none false, .literal ['b']]) := by decide +kernel
  have dry : compile "c<mass:dry>".toList = .ok (.valid [.literal ['c'], .mass none true]) := by
    decide +kernel
  have opened : compile "c<mass".toList = .ok (.invalid (.unterminatedTag 1)) := by decide +kernel
  have failed : compile unknown = .ok (.invalid (.unknownElementKind "volume".toList)) := by
    decide +kernel
  have failing : FailsAtTag unknown := ⟨by simp [failed], by simp [failed]⟩
  have wrong : Tag.build "gps:W".toList =
      .error (.rejected (.invalidOption .gps (.axisUnknown ['W']))) := by decide +kernel
  refine ⟨?_, ?_, ?_, ?_, ?_⟩
  · exact (compile_append first _).1 _ _ valid dry
  · exact (compile_append first _).2.1 _ _ valid opened
  · exact ((compile_append first _).2.2.1 _ valid failing).trans failed
  · exact ((compile_append unknown _).2.2.2.1 failing).trans failed
  · exact (compile_append first _).2.2.2.2 _ _ _ valid (by decide) wrong

end Template
end Wallboard
