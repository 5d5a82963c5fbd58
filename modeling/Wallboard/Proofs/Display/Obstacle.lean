import Wallboard.Display.Element
import Wallboard.Proofs.Attempt
import Wallboard.Proofs.Display.Precision
import Wallboard.Proofs.Markup.RoundTrip
import Wallboard.Proofs.Number.Truncation

/-!
What keeps an element of a template from being displayed: an integer that is too long, a width or a
precision that is too large, and a coordinate that is not finite. Nothing else does, whatever the
snapshot holds.
-/
namespace Wallboard

def Scale.folded (scale : Scale) (amount : Int) : Int :=
  match scale with
  | .units => amount
  | .thousands => if 1000 < amount then amount.tdiv 1000 else amount
  | .millions => if 1000000 < amount then amount.tdiv 1000000 else amount

namespace Element

def padWidth? : Element → Option Int
  | literal _ => none
  | mass padWidth _ => padWidth
  | itemCount _ padWidth _ => padWidth
  | gas _ padWidth _ => padWidth
  | coordinate _ padWidth _ => padWidth
  | power _ padWidth => padWidth

/-- The integer whose digits an element shows, unless it stands for a text, for an amount of money
or for a value that the snapshot does not have. -/
def shownInteger? (snapshot : Snapshot) : Element → Option Int
  | literal _ => none
  | mass _ _ => some (snapshot.totalMassKg.tdiv 1000)
  | itemCount resourceKey _ scale => (snapshot.quantity? resourceKey).map scale.folded
  | gas kind _ .percentage => (snapshot.tank? kind).map Display.fillPercentage
  | gas kind _ .absolute => (snapshot.tank? kind).map fun tank => Scale.thousands.folded tank.current
  | coordinate _ _ _ => none
  | power divisor _ => some (snapshot.powerRaw.tdiv divisor)

end Element

namespace Display

open Integer

/-- What keeps an element from being displayed: an integer of more than 4300 digits, a pad width
beyond a signed word of 64 bits, or a coordinate that is not finite or needs more precision than
there is. -/
def Obstacle (snapshot : Snapshot) (element : Element) : Prop :=
  (∃ value ∈ element.shownInteger? snapshot, 4300 < (digits value.natAbs).length) ∨
    (∃ width ∈ element.padWidth?, 9223372036854775807 < width) ∨
    ∃ axis padWidth decimals, element = .coordinate axis padWidth decimals ∧
      ((snapshot.position.along axis).isFinite = false ∨
        999999999999999999 <
          max 28 (Currency.leadingOrder (snapshot.position.along axis) + decimals + 2))

variable {snapshot : Snapshot} {text : Text} {padWidth : Option Int} {value : Int}

theorem padded_fails_iff (natural : Element.NaturalWidth padWidth) :
    (∃ fault, padded text padWidth = .error fault) ↔
      ∃ width ∈ padWidth, 9223372036854775807 < width := by
  cases padWidth with
  | none => simp [padded]
  | some width =>
      have word := fitsWord_iff (natural width rfl).1
      rw [padded]
      by_cases fits : fitsWord width = true
      · simpa [fits] using word.mp fits
      · simpa [fits] using word.not.mp fits

theorem printed_fails_iff :
    (∃ fault, printed value = .error fault) ↔ 4300 < (digits value.natAbs).length := by
  unfold printed print? digitLimit
  by_cases short : (digits value.natAbs).length ≤ 4300
  · simp [short]
  · have long : 4300 < (digits value.natAbs).length := Nat.not_le.mp short
    simp [short, long]

theorem paddedInteger_fails_iff (natural : Element.NaturalWidth padWidth) (value : Int) :
    (∃ fault, paddedInteger value padWidth = .error fault) ↔
      4300 < (digits value.natAbs).length ∨ ∃ width ∈ padWidth, 9223372036854775807 < width := by
  rw [paddedInteger, bind_fails_iff fun text => padded_fails_iff natural, printed_fails_iff]

theorem scaled_fails_iff (natural : Element.NaturalWidth padWidth) (value : Int) (scale : Scale) :
    (∃ fault, scaled value padWidth scale = .error fault) ↔
      4300 < (digits (scale.folded value).natAbs).length ∨
        ∃ width ∈ padWidth, 9223372036854775807 < width := by
  have lettered (amount : Int) (letter : Char) :
      (∃ fault, (do let text ← paddedInteger amount padWidth; .ok (text ++ [letter])) =
          Except.error fault) ↔ ∃ fault, paddedInteger amount padWidth = .error fault := by
    rw [@bind_fails_iff _ _ _ _ _ False (by simp), or_false]
  rw [← paddedInteger_fails_iff natural]
  cases scale with
  | units => rfl
  | thousands =>
      by_cases large : 1000 < value
      · simpa [scaled, Scale.folded, large, truncatedQuotient_eq_tdiv]
          using lettered (value.tdiv 1000) 'K'
      · simp [scaled, Scale.folded, large]
  | millions =>
      by_cases large : 1000000 < value
      · simpa [scaled, Scale.folded, large, truncatedQuotient_eq_tdiv]
          using lettered (value.tdiv 1000000) 'M'
      · simp [scaled, Scale.folded, large]

variable {element : Element}

theorem element_fails_iff (canonical : element.Canonical) :
    (∃ fault, Display.element snapshot element = .error fault) ↔ Obstacle snapshot element := by
  cases element with
  | literal text => simp [Display.element, Obstacle, Element.shownInteger?, Element.padWidth?]
  | mass padWidth dry =>
      simpa [Display.element, Obstacle, Element.shownInteger?, Element.padWidth?,
        truncatedQuotient_eq_tdiv]
        using paddedInteger_fails_iff canonical (snapshot.totalMassKg.tdiv 1000)
  | itemCount resourceKey padWidth scale =>
      cases found : snapshot.quantity? resourceKey with
      | none =>
          simpa [Display.element, Obstacle, Element.shownInteger?, Element.padWidth?, found]
            using padded_fails_iff canonical.2
      | some value =>
          simpa [Display.element, Obstacle, Element.shownInteger?, Element.padWidth?, found]
            using scaled_fails_iff canonical.2 value scale
  | gas kind padWidth display =>
      cases found : snapshot.tank? kind with
      | none =>
          cases display <;>
            simpa [Display.element, Display.gas, Obstacle, Element.shownInteger?,
              Element.padWidth?, found] using padded_fails_iff canonical
      | some tank =>
          cases display with
          | percentage =>
              simpa [Display.element, Display.gas, Obstacle, Element.shownInteger?,
                Element.padWidth?, found]
                using paddedInteger_fails_iff canonical (fillPercentage tank)
          | absolute =>
              simpa [Display.element, Display.gas, Obstacle, Element.shownInteger?,
                Element.padWidth?, found] using scaled_fails_iff canonical tank.current .thousands
  | coordinate axis padWidth decimals =>
      have amount := @Currency.text_fails_iff (snapshot.position.along axis) _ canonical.1.1
      have whole := @bind_fails_iff _ _ _
        (Currency.text (snapshot.position.along axis) decimals) _ _
        fun text => @padded_fails_iff text _ canonical.2
      rw [amount, or_comm] at whole
      simpa [Display.element, Obstacle, Element.shownInteger?, Element.padWidth?,
        Currency.precisionLimit, Currency.precision] using whole
  | power divisor padWidth =>
      have divides : divisor ≠ 0 := by
        have positive := canonical.1.1
        omega
      simpa [Display.element, Obstacle, Element.shownInteger?, Element.padWidth?, divides,
        truncatedQuotient_eq_tdiv]
        using paddedInteger_fails_iff canonical.2 (snapshot.powerRaw.tdiv divisor)

theorem padded_ne_zeroDivisor (text : Text) (padWidth : Option Int) :
    padded text padWidth ≠ .error .zeroDivisor := by
  cases padWidth with
  | none => simp [padded]
  | some width =>
      rw [padded]
      split <;> simp

theorem paddedInteger_ne_zeroDivisor (value : Int) (padWidth : Option Int) :
    paddedInteger value padWidth ≠ .error .zeroDivisor := by
  have unprinted : printed value ≠ .error .zeroDivisor := by
    rw [printed]
    split <;> simp
  intro failed
  rcases bind_eq_error_iff.mp failed with failed | ⟨text, _, failed⟩
  · exact unprinted failed
  · exact padded_ne_zeroDivisor text padWidth failed

theorem scaled_ne_zeroDivisor (value : Int) (padWidth : Option Int) (scale : Scale) :
    scaled value padWidth scale ≠ .error .zeroDivisor := by
  have lettered (amount : Int) (letter : Char) :
      (do let text ← paddedInteger amount padWidth; .ok (text ++ [letter])) ≠
        Except.error DisplayFault.zeroDivisor := by
    intro failed
    rcases bind_eq_error_iff.mp failed with failed | ⟨text, _, failed⟩
    · exact paddedInteger_ne_zeroDivisor amount padWidth failed
    · cases failed
  unfold scaled
  split
  · exact lettered (truncatedQuotient value 1000) 'K'
  · split
    · exact lettered (truncatedQuotient value 1000000) 'M'
    · exact paddedInteger_ne_zeroDivisor value padWidth

theorem currency_ne_zeroDivisor (double : Binary64) (decimals : Int) :
    Currency.text double decimals ≠ .error .zeroDivisor := by
  unfold Currency.text Currency.refusal
  dsimp only
  repeat' split
  all_goals simp

theorem element_ne_zeroDivisor (canonical : element.Canonical) :
    Display.element snapshot element ≠ .error .zeroDivisor := by
  cases element with
  | literal text => simp [Display.element]
  | mass padWidth dry => exact paddedInteger_ne_zeroDivisor _ padWidth
  | itemCount resourceKey padWidth scale =>
      rw [Display.element]
      split
      · exact padded_ne_zeroDivisor missing padWidth
      · exact scaled_ne_zeroDivisor _ padWidth scale
  | gas kind padWidth display =>
      rw [Display.element, Display.gas.eq_def]
      split <;> split
      · exact padded_ne_zeroDivisor _ padWidth
      · exact paddedInteger_ne_zeroDivisor _ padWidth
      · exact padded_ne_zeroDivisor _ padWidth
      · exact scaled_ne_zeroDivisor _ padWidth .thousands
  | coordinate axis padWidth decimals =>
      intro failed
      rcases bind_eq_error_iff.mp failed with failed | ⟨text, _, failed⟩
      · exact currency_ne_zeroDivisor _ decimals failed
      · exact padded_ne_zeroDivisor text padWidth failed
  | power divisor padWidth =>
      have divides : divisor ≠ 0 := by
        have positive := canonical.1.1
        omega
      rw [Display.element, if_neg divides]
      exact paddedInteger_ne_zeroDivisor _ padWidth

end Display

namespace Template

open Display

/-- An element of a template that compiled is displayed against every snapshot, unless there is an
obstacle. It never divides by zero, and the precision of a finite coordinate always has room for the
rounded amount. -/
theorem displayed_unless_obstacle {markup : Text} {elements : List Element}
    (valid : compile markup = .ok (.valid elements)) (snapshot : Snapshot) :
    ∀ element ∈ elements,
      ((∃ fault, Display.element snapshot element = .error fault) ↔ Obstacle snapshot element) ∧
        Display.element snapshot element ≠ .error .zeroDivisor ∧
        ∀ axis padWidth decimals, element = .coordinate axis padWidth decimals →
          (snapshot.position.along axis).isFinite = true →
            (Integer.digits (Currency.roundedUnits (snapshot.position.along axis).shortest
              decimals.toNat)).length ≤
                max 28 (Currency.leadingOrder (snapshot.position.along axis) + decimals + 2) := by
  intro element member
  have canonical := (canonical_of_compile valid).each element member
  refine ⟨element_fails_iff canonical, element_ne_zeroDivisor canonical, ?_⟩
  rintro axis padWidth decimals rfl finite
  have room := Currency.hasRoom_precision finite decimals.toNat
  rw [Int.toNat_of_nonneg canonical.1.1] at room
  exact of_decide_eq_true room

/-- A coordinate that is carried into a new leading digit, one that is infinite, a tank without
capacity and a divisor of zero. -/
theorem displayed_carry_and_infinity :
    let markup := "<gps:x,,1><gps:y><gas:o2,,%><power:0>".toList
    let elements : List Element :=
      [.coordinate .x none 1, .coordinate .y none 2, .gas .oxygen none .percentage, .power 1 none]
    let snapshot : Snapshot :=
      { powerRaw := -3
        position := { x := .ofDecimal ⟨false, 996, -2⟩, y := .infinity true }
        gas := [(.oxygen, ⟨7, 0⟩)] }
    compile markup = .ok (.valid elements) ∧
      elements.map (fun element => (Display.element snapshot element).toOption) =
        [some "$10.0".toList, none, some "700".toList, some "-3".toList] ∧
      ¬ Obstacle snapshot (.coordinate .x none 1) ∧ Obstacle snapshot (.coordinate .y none 2) ∧
      ∃ fault, Display.element snapshot (.coordinate .y none 2) = .error fault := by
  intro markup elements snapshot
  have valid : compile markup = .ok (.valid elements) := by decide +kernel
  have shown : elements.map (fun element => (Display.element snapshot element).toOption) =
      [some "$10.0".toList, none, some "700".toList, some "-3".toList] := by decide +kernel
  have each := displayed_unless_obstacle valid snapshot
  have carried : Display.element snapshot (.coordinate .x none 1) = .ok "$10.0".toList := by
    decide +kernel
  have infinite : Obstacle snapshot (.coordinate .y none 2) :=
    .inr (.inr ⟨.y, none, 2, rfl, .inl (by decide)⟩)
  refine ⟨valid, shown, ?_, infinite, (each _ (by simp [elements])).1.mpr infinite⟩
  intro obstacle
  obtain ⟨fault, failed⟩ := (each (.coordinate .x none 1) (by simp [elements])).1.mpr obstacle
  rw [carried] at failed
  cases failed

end Template
end Wallboard
