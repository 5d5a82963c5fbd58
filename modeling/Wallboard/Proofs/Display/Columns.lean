import Wallboard.Proofs.Attempt
import Wallboard.Proofs.Display.Amount
import Wallboard.Proofs.Display.Scaled

namespace Wallboard

def Element.withPadWidth (padWidth : Option Int) : Element → Element
  | literal text => .literal text
  | mass _ dry => .mass padWidth dry
  | itemCount resourceKey _ scale => .itemCount resourceKey padWidth scale
  | gas kind _ display => .gas kind padWidth display
  | coordinate axis _ decimals => .coordinate axis padWidth decimals
  | power divisor _ => .power divisor padWidth

namespace Display

def withoutLetter (text : Text) : Text :=
  if text.getLast? = some 'K' ∨ text.getLast? = some 'M' then text.dropLast else text

def Compact (text : Text) : Prop := ∀ char ∈ text, char ≠ ' ' ∧ char ≠ 'K' ∧ char ≠ 'M'

/-- At every pad width a body is displayed that is padded to the width, and then the letter of a
unit. -/
structure Lays (display : Option Int → Except DisplayFault Text) (body : Text) (unit : Scale) :
    Prop where
  compact : Compact body
  displayed : ∀ padWidth, display padWidth = (padded body padWidth).map (· ++ unit.suffix)

variable {text body shown : Text} {value : Int} {own : Option Int} {unit scale : Scale}

theorem compact_of_numeric (numeric : ∀ char ∈ text, Integer.isNumeric char = true) :
    Compact text := by
  intro char member
  refine ⟨?_, ?_, ?_⟩
  all_goals
    rintro rfl
    cases numeric _ member

theorem compact_singleton {char : Char} (numeric : Integer.isNumeric char = true) :
    Compact [char] := compact_of_numeric (List.forall_mem_singleton.mpr numeric)

theorem compact_cons {char : Char} :
    Compact (char :: text) ↔ (char ≠ ' ' ∧ char ≠ 'K' ∧ char ≠ 'M') ∧ Compact text :=
  List.forall_mem_cons

theorem compact_append : Compact (text ++ body) ↔ Compact text ∧ Compact body :=
  List.forall_mem_append

theorem lays_padded (compact : Compact text) : Lays (padded text) text .units := by
  constructor
  case compact => exact compact
  case displayed =>
    intro padWidth
    cases padded text padWidth <;> simp [Except.map, Scale.suffix]

theorem lays_paddedInteger (displayed : paddedInteger value own = .ok shown) :
    Lays (paddedInteger value) (Integer.text value) .units := by
  obtain ⟨text, written, _⟩ := bind_eq_ok_iff.mp displayed
  rw [eq_text_of_printed written] at written
  have padding : paddedInteger value = padded (Integer.text value) := by
    funext padWidth
    rw [paddedInteger, written]
    rfl
  rw [padding]
  exact lays_padded (compact_of_numeric fun char => Integer.isNumeric_of_mem_text)

theorem lays_scaled (displayed : scaled value own scale = .ok shown) :
    Lays (fun padWidth => scaled value padWidth scale)
      (Integer.text (value.tdiv (scale.unit value).factor)) (scale.unit value) := by
  rw [scaled_eq] at displayed
  cases counted : paddedInteger (value.tdiv (scale.unit value).factor) own with
  | error fault =>
      rw [counted] at displayed
      cases displayed
  | ok count =>
      have lays := lays_paddedInteger counted
      constructor
      case compact => exact lays.compact
      case displayed =>
        intro padWidth
        rw [scaled_eq, lays.displayed]
        cases padded (Integer.text (value.tdiv (scale.unit value).factor)) padWidth <;>
          simp [Except.map, Scale.suffix]

theorem Currency.compact_of_shows {places : Nat} {amount : ℚ} (shows : Shows places amount text) :
    Compact text := by
  obtain ⟨whole, fraction, grouped, _, numeric, _, rfl⟩ := shows
  have digits {run : Text} (numeric : ∀ char ∈ run, char.isDigit = true) : Compact run := by
    apply compact_of_numeric
    intro char member
    rw [Integer.isNumeric, numeric char member, Bool.or_true]
  have front : Compact whole := by
    intro char member
    rcases grouped.mem member with rfl | digit
    · decide
    · exact digits (fun char => Integer.isDigit_of_mem_digits) char digit
  have back : Compact (if places = 0 then [] else '.' :: fraction) := by
    split
    · exact List.forall_mem_nil _
    · exact compact_cons.mpr ⟨by decide, digits numeric⟩
  have body : Compact ('$' :: whole ++ if places = 0 then [] else '.' :: fraction) :=
    compact_append.mpr ⟨compact_cons.mpr ⟨by decide, front⟩, back⟩
  split
  · apply compact_append.mpr
    exact ⟨compact_cons.mpr ⟨by decide, body⟩, compact_cons.mpr ⟨by decide, List.forall_mem_nil _⟩⟩
  · exact body

theorem Currency.compact_text {double : Binary64} {decimals : Int}
    (displayed : Currency.text double decimals = .ok text) : Compact text := by
  have amount : text = Currency.amount double.shortest decimals.toNat := by
    unfold Currency.text at displayed
    dsimp only at displayed
    repeat' split at displayed
    all_goals cases displayed
    rfl
  rw [amount]
  exact compact_of_shows (shows_amount double.shortest decimals.toNat)

variable {element : Element} {snapshot : Snapshot}

theorem lays_element (valued : element.isLiteral = false)
    (displayed : Display.element snapshot element = .ok shown) :
    ∃ body unit,
      Lays (fun padWidth => Display.element snapshot (element.withPadWidth padWidth))
        body unit := by
  cases element with
  | literal text => cases valued
  | mass padWidth dry => exact ⟨_, _, lays_paddedInteger displayed⟩
  | itemCount resourceKey padWidth scale =>
      simp only [Display.element, Element.withPadWidth] at displayed ⊢
      cases found : snapshot.quantity? resourceKey with
      | none => exact ⟨_, _, lays_padded (compact_singleton rfl)⟩
      | some value =>
          rw [found] at displayed
          exact ⟨_, _, lays_scaled displayed⟩
  | gas kind padWidth display =>
      simp only [Display.element, Element.withPadWidth] at displayed ⊢
      cases found : snapshot.tank? kind with
      | none =>
          cases display with
          | percentage => exact ⟨_, _, lays_padded (compact_singleton rfl)⟩
          | absolute => exact ⟨_, _, lays_padded (compact_singleton rfl)⟩
      | some tank =>
          rw [found] at displayed
          cases display with
          | percentage => exact ⟨_, _, lays_paddedInteger displayed⟩
          | absolute => exact ⟨_, _, lays_scaled displayed⟩
  | coordinate axis padWidth decimals =>
      obtain ⟨amount, written, _⟩ := bind_eq_ok_iff.mp displayed
      refine ⟨amount, .units, ?_⟩
      simp only [Display.element, Element.withPadWidth, written]
      exact lays_padded (Currency.compact_text written)
  | power divisor padWidth =>
      simp only [Display.element, Element.withPadWidth] at displayed ⊢
      split at displayed
      · cases displayed
      · rename_i divides
        simp only [if_neg divides]
        exact ⟨_, _, lays_paddedInteger displayed⟩

theorem withoutLetter_append (compact : Compact body) (unit : Scale) :
    withoutLetter (body ++ unit.suffix) = body := by
  unfold withoutLetter
  cases unit with
  | units =>
      have last : ¬ (body.getLast? = some 'K' ∨ body.getLast? = some 'M') := by
        rintro (letter | letter)
        · exact (compact 'K' (List.mem_of_getLast? letter)).2.1 rfl
        · exact (compact 'M' (List.mem_of_getLast? letter)).2.2 rfl
      rw [Scale.suffix, List.append_nil, if_neg last]
  | thousands => simp [Scale.suffix]
  | millions => simp [Scale.suffix]

theorem dropWhile_spaces (compact : Compact body) (unit : Scale) (count : Nat) :
    (List.replicate count ' ' ++ (body ++ unit.suffix)).dropWhile (· == ' ') =
      body ++ unit.suffix := by
  have letters : ∀ char ∈ unit.suffix, (char == ' ') = false := by
    cases unit with
    | units => exact List.forall_mem_nil _
    | thousands => exact List.forall_mem_singleton.mpr rfl
    | millions => exact List.forall_mem_singleton.mpr rfl
  have solid : ∀ char ∈ body ++ unit.suffix, (char == ' ') = false := by
    intro char member
    rcases List.mem_append.mp member with inside | letter
    · exact beq_eq_false_iff_ne.mpr (compact char inside).1
    · exact letters char letter
  have spaces : ∀ char ∈ List.replicate count ' ', (char == ' ') = true := by
    intro char member
    rw [List.eq_of_mem_replicate member]
    rfl
  rw [List.dropWhile_append_of_pos spaces]
  apply Text.dropWhile_of_head
  intro char first
  exact solid char (List.mem_of_mem_head? first)

/-- Wherever an element has a text, padding it to a width in the range of a signed word puts spaces
before that text, as many as the text has too few characters without the letter of its unit. -/
theorem padding_keeps_text {element : Element} {snapshot : Snapshot} {shown : Text}
    (valued : element.isLiteral = false)
    (displayed : Display.element snapshot element = .ok shown) :
    ∃ text, Display.element snapshot (element.withPadWidth none) = .ok text ∧
      ∀ width : Nat, width < 2 ^ 63 →
        ∃ padded, Display.element snapshot (element.withPadWidth (some width)) = .ok padded ∧
          padded = List.replicate (width - (withoutLetter text).length) ' ' ++ text ∧
          padded.length = max (withoutLetter text).length width +
            (text.length - (withoutLetter text).length) ∧
          (text.length = (withoutLetter text).length ∨
            text.length = (withoutLetter text).length + 1) ∧
          padded.dropWhile (· == ' ') = text := by
  obtain ⟨body, unit, lays⟩ := lays_element valued displayed
  refine ⟨body ++ unit.suffix, lays.displayed none, ?_⟩
  intro width word
  have fits : fitsWord width = true := (fitsWord_iff (by omega)).mpr (by omega)
  have letters : unit.suffix.length = 0 ∨ unit.suffix.length = 1 := by
    cases unit
    · exact .inl rfl
    · exact .inr rfl
    · exact .inr rfl
  rw [withoutLetter_append lays.compact]
  refine ⟨_, ?_, rfl, ?_, ?_, dropWhile_spaces lays.compact unit _⟩
  · rw [lays.displayed, padded, if_pos fits, Int.toNat_natCast, Except.map, List.append_assoc]
  · simp only [List.length_append, List.length_replicate]
    omega
  · rw [List.length_append]
    omega

/-- An amount in thousands, whose letter stands after the last of the padded columns. -/
theorem padded_before_its_letter :
    let element : Element := .itemCount "Ice".toList (some 2) .thousands
    let snapshot : Snapshot := { quantities := [("Ice".toList, 1500)] }
    element.isLiteral = false ∧ Display.element snapshot element = .ok " 1K".toList ∧
      Display.element snapshot (element.withPadWidth none) = .ok "1K".toList ∧
      Display.element snapshot (element.withPadWidth (some 7)) = .ok "      1K".toList ∧
      "      1K".toList.dropWhile (· == ' ') = "1K".toList := by
  intro element snapshot
  have displayed : Display.element snapshot element = .ok " 1K".toList := by decide +kernel
  have unpadded : Display.element snapshot (element.withPadWidth none) = .ok "1K".toList := by
    decide +kernel
  obtain ⟨text, shown, widths⟩ := padding_keeps_text rfl displayed
  obtain rfl : "1K".toList = text := Except.ok.inj (unpadded.symm.trans shown)
  obtain ⟨padded, wide, rfl, _, _, stripped⟩ := widths 7 (by decide)
  exact ⟨rfl, displayed, unpadded, wide, stripped⟩

end Display
end Wallboard
