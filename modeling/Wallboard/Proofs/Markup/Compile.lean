import Wallboard.Markup.Template
import Wallboard.Proofs.Markup.Scan
import Wallboard.Proofs.Markup.Tag

namespace Wallboard

def Piece.element (piece : Piece) : Tag.Build Element :=
  match piece.kind with
  | .literal => .ok (.literal piece.text)
  | .tag => Tag.build piece.text

namespace Pieces

def elements : Pieces → Tag.Build (List Element)
  | [] => .ok []
  | piece :: rest => do
      let head ← piece.element
      let tail ← elements rest
      .ok (head :: tail)

theorem elements_cons_eq_ok_iff {piece : Piece} {rest : Pieces} {sound : List Element} :
    elements (piece :: rest) = .ok sound ↔
      ∃ head tail, piece.element = .ok head ∧ elements rest = .ok tail ∧ sound = head :: tail := by
  simp only [elements, bind_eq_ok_iff, Except.ok.injEq]
  constructor
  · rintro ⟨head, made, tail, built, rfl⟩
    exact ⟨head, tail, made, built, rfl⟩
  · rintro ⟨head, tail, made, built, rfl⟩
    exact ⟨head, made, tail, built, rfl⟩

theorem elements_tokens (offset : Nat) (pieces : Pieces) :
    Template.elements (pieces.tokens offset) = pieces.elements := by
  induction pieces generalizing offset with
  | nil => rfl
  | cons piece rest ih =>
      have head : Template.element ⟨piece.kind, piece.text, offset + piece.lead⟩ =
          piece.element := rfl
      simp only [tokens, Template.elements, elements, head, ih]

theorem elements_eq_error_iff {pieces : Pieces} {fault : BuildFault} :
    elements pieces = .error fault ↔
      ∃ (before : Pieces) (body : Text) (rest : Pieces) (sound : List Element),
        pieces = before ++ ⟨.tag, body⟩ :: rest ∧ elements before = .ok sound ∧
          Tag.build body = .error fault := by
  constructor
  · intro failed
    induction pieces with
    | nil => cases failed
    | cons piece rest ih =>
        simp only [elements, bind_eq_error_iff, reduceCtorEq, and_false, exists_false,
          or_false] at failed
        rcases failed with failed | ⟨head, made, failed⟩
        · rcases piece with ⟨kind, body⟩
          cases kind with
          | literal => cases failed
          | tag => exact ⟨[], body, rest, [], rfl, rfl, failed⟩
        · obtain ⟨before, body, after, sound, rfl, built, wrong⟩ := ih failed
          refine ⟨piece :: before, body, after, head :: sound, rfl, ?_, wrong⟩
          simp [elements, made, built, bind, Except.bind]
  · rintro ⟨before, body, rest, sound, rfl, built, wrong⟩
    induction before generalizing sound with
    | nil => simp [elements, Piece.element, wrong, bind, Except.bind]
    | cons piece before ih =>
        obtain ⟨head, tail, made, others, rfl⟩ := elements_cons_eq_ok_iff.mp built
        simp [elements, made, ih tail others, bind, Except.bind]

end Pieces

namespace Template

theorem compile_text {pieces : Pieces} (proper : pieces.Proper) {unclosed : Option Text}
    (absent : ∀ body ∈ unclosed, '>' ∉ body) :
    compile (pieces.text ++ openEnd unclosed) =
      match pieces.elements with
      | .error (.oversized numeral) => .error numeral
      | .error (.rejected error) => .ok (.invalid error)
      | .ok elements =>
          match unclosed with
          | some _ => .ok (.invalid (.unterminatedTag pieces.text.length))
          | none => .ok (.valid elements) := by
  rw [compile, Scan.ofMarkup_text proper absent, ofScan, Pieces.elements_tokens]
  cases unclosed <;> rfl

theorem compile_eq_valid_iff {markup : Text} {elements : List Element} :
    compile markup = .ok (.valid elements) ↔
      ∃ pieces : Pieces, pieces.Proper ∧ markup = pieces.text ∧ pieces.elements = .ok elements := by
  constructor
  · intro valid
    obtain ⟨pieces, unclosed, proper, absent, rfl⟩ := Scan.exists_pieces markup
    rw [compile_text proper absent] at valid
    cases built : pieces.elements with
    | error fault => cases fault <;> simp [built] at valid
    | ok made =>
        cases unclosed with
        | some body => simp [built] at valid
        | none =>
            have same : made = elements := by simpa [built] using valid
            exact ⟨pieces, proper, by simp [openEnd], by rw [built, same]⟩
  · rintro ⟨pieces, proper, rfl, built⟩
    have outcome := @compile_text pieces proper none (by simp)
    simpa [openEnd, built] using outcome

def failure : BuildFault → Except Integer.Oversized Template
  | .oversized numeral => .error numeral
  | .rejected error => .ok (.invalid error)

theorem compile_of_elements_error {pieces : Pieces} (proper : pieces.Proper)
    {unclosed : Option Text} (absent : ∀ body ∈ unclosed, '>' ∉ body) {fault : BuildFault}
    (failed : pieces.elements = .error fault) :
    compile (pieces.text ++ openEnd unclosed) = failure fault := by
  rw [compile_text proper absent, failed]
  cases fault <;> rfl

/-- The leftmost tag that cannot be built decides the outcome, whatever follows it. -/
theorem compile_failing_tag {before body : Text} {sound : List Element} {fault : BuildFault}
    (valid : compile before = .ok (.valid sound)) (inside : '>' ∉ body)
    (wrong : Tag.build body = .error fault) (rest : Text) :
    compile (before ++ '<' :: body ++ '>' :: rest) = failure fault := by
  obtain ⟨left, leftProper, rfl, built⟩ := compile_eq_valid_iff.mp valid
  obtain ⟨right, unclosed, rightProper, absent, rfl⟩ := Scan.exists_pieces rest
  have proper := leftProper.append_tag inside rightProper
  have failed := Pieces.elements_eq_error_iff.mpr ⟨left, body, right, sound, rfl, built, wrong⟩
  simpa [Piece.written] using compile_of_elements_error proper absent failed

theorem compile_cases (markup : Text) :
    (∃ elements, compile markup = .ok (.valid elements)) ∨
      (∃ offset, compile markup = .ok (.invalid (.unterminatedTag offset))) ∨
      ∃ before body rest sound fault, markup = before ++ '<' :: body ++ '>' :: rest ∧
        '>' ∉ body ∧ compile before = .ok (.valid sound) ∧ Tag.build body = .error fault := by
  obtain ⟨pieces, unclosed, proper, absent, rfl⟩ := Scan.exists_pieces markup
  cases built : pieces.elements with
  | ok elements =>
      have outcome := compile_text proper absent
      rw [built] at outcome
      cases unclosed with
      | none => exact Or.inl ⟨elements, outcome⟩
      | some body => exact Or.inr (Or.inl ⟨_, outcome⟩)
  | error fault =>
      obtain ⟨before, body, rest, sound, rfl, valid, wrong⟩ :=
        Pieces.elements_eq_error_iff.mp built
      refine Or.inr (Or.inr ⟨Pieces.text before, body, Pieces.text rest ++ openEnd unclosed,
        sound, fault, ?_, ?_, ?_, wrong⟩)
      · simp [Piece.written]
      · exact proper.each ⟨.tag, body⟩ (by simp)
      · exact compile_eq_valid_iff.mpr ⟨before, proper.left, rfl, valid⟩

theorem compile_eq_error_iff {markup : Text} {numeral : Integer.Oversized} :
    compile markup = .error numeral ↔
      ∃ before body rest elements,
        markup = before ++ '<' :: body ++ '>' :: rest ∧ '>' ∉ body ∧
          compile before = .ok (.valid elements) ∧
          Tag.build body = .error (.oversized numeral) := by
  constructor
  · intro stopped
    rcases compile_cases markup with ⟨elements, valid⟩ | ⟨offset, opened⟩ | failing
    · rw [stopped] at valid
      cases valid
    · rw [stopped] at opened
      cases opened
    · obtain ⟨before, body, rest, sound, fault, rfl, inside, valid, wrong⟩ := failing
      rw [compile_failing_tag valid inside wrong] at stopped
      cases fault with
      | rejected error => cases stopped
      | oversized found =>
          obtain rfl : found = numeral := Except.error.inj stopped
          exact ⟨before, body, rest, sound, rfl, inside, valid, wrong⟩
  · rintro ⟨before, body, rest, elements, rfl, inside, valid, wrong⟩
    exact compile_failing_tag valid inside wrong rest

/-- A tag of the markup, after markup that is valid by itself, is stopped by an integer with too
many digits. -/
def StopsAt (markup : Text) (digits : Nat) : Prop :=
  ∃ before body rest elements,
    markup = before ++ '<' :: body ++ '>' :: rest ∧ '>' ∉ body ∧
      compile before = .ok (.valid elements) ∧ Tag.StoppedBy body digits

theorem compile_eq_oversized_iff {markup : Text} {digits : Nat} :
    compile markup = .error ⟨digits⟩ ↔ StopsAt markup digits := by
  simp only [compile_eq_error_iff, Tag.build_eq_oversized_iff, StopsAt]

theorem compile_ne_error_iff {markup : Text} :
    (∃ template, compile markup = .ok template) ↔ ∀ numeral, compile markup ≠ .error numeral := by
  cases compile markup with
  | ok template => simp
  | error numeral => simp

theorem compile_succeeds_iff (markup : Text) :
    (∃ template, compile markup = .ok template) ↔ ∀ digits, ¬ StopsAt markup digits := by
  rw [compile_ne_error_iff]
  constructor
  · intro succeeds digits stops
    exact succeeds ⟨digits⟩ (compile_eq_oversized_iff.mpr stops)
  · intro readable numeral stopped
    exact readable numeral.digits (compile_eq_oversized_iff.mp stopped)

/-- What stops the compiler is an integer with too many digits in the leftmost tag that cannot be
built, and nothing else does. -/
theorem compile_stops_only_at_overlong_integers (markup : Text) :
    ((∃ template, compile markup = .ok template) ↔ ∀ digits, ¬ StopsAt markup digits) ∧
      ∀ digits, compile markup = .error ⟨digits⟩ ↔ StopsAt markup digits := by
  constructor
  · exact compile_succeeds_iff markup
  · intro digits
    exact compile_eq_oversized_iff

def powerMarkup (divisor : Text) : Text :=
  '<' :: (TagKind.power.name ++ ':' :: divisor) ++ ['>']

theorem compile_powerMarkup {divisor : Text} (numeric : ∀ char ∈ divisor, char.isDigit = true)
    (overlong : Integer.digitLimit < divisor.length) :
    compile (powerMarkup divisor) = .error ⟨divisor.length⟩ := by
  have foreign (mark : Char) (other : mark.isDigit = false) : mark ∉ divisor := by
    intro member
    simp [numeric mark member] at other
  have filled : divisor ≠ [] := List.ne_nil_of_length_pos (Nat.zero_lt_of_lt overlong)
  have trimmed : Text.strip divisor = divisor :=
    Text.trim_eq_self fun char member => Text.isBlank_of_isDigit (numeric char member)
  have split : Text.cut ':' (TagKind.power.name ++ ':' :: divisor) =
      (TagKind.power.name, some divisor) := Text.cut_append (by decide) divisor
  have argument : Tag.argument? (Tag.arguments 2 (some divisor)) 0 = some divisor := by
    rw [Tag.arguments, Text.splitAt_eq_self_of_not_mem (foreign ',' rfl)]
    simp only [List.map_cons, List.map_nil, trimmed, List.take_succ_cons, List.take_nil]
    cases divisor with
    | nil => exact absurd rfl filled
    | cons head tail => rfl
  have stopped : Tag.StoppedBy (TagKind.power.name ++ ':' :: divisor) divisor.length := by
    refine ⟨.power, ?_, ?_⟩
    · rw [split]
      exact (by decide : TagKind.ofName? TagKind.power.name = some .power)
    · rw [split]
      exact ⟨divisor, argument, Or.inl
        ⟨⟨false, divisor⟩, Integer.Numeral.ofText?_of_digits filled numeric, rfl, overlong⟩⟩
  have inside : '>' ∉ TagKind.power.name ++ ':' :: divisor := by
    have named : '>' ∉ TagKind.power.name := by decide
    simp [named, foreign '>' rfl]
  exact compile_eq_oversized_iff.mpr
    ⟨[], TagKind.power.name ++ ':' :: divisor, [], [], rfl, inside, rfl, stopped⟩

def overlongMarkup : Text := powerMarkup (List.replicate 4301 '1')

theorem compile_overlongMarkup : compile overlongMarkup = .error ⟨4301⟩ := by
  have numeric : ∀ char ∈ List.replicate 4301 '1', char.isDigit = true := by
    intro char member
    rw [List.eq_of_mem_replicate member]
    rfl
  have stopped := compile_powerMarkup numeric (by rw [List.length_replicate]; decide)
  rwa [List.length_replicate] at stopped

theorem overlongMarkup_has_no_template : ¬ ∃ template, compile overlongMarkup = .ok template := by
  rw [compile_overlongMarkup]
  rintro ⟨template, impossible⟩
  cases impossible

end Template
end Wallboard
