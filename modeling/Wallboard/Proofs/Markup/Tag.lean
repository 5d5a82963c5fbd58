import Wallboard.Markup.Tag
import Wallboard.Proofs.Attempt

/-!
Which tags cannot be built because an integer among their arguments has too many digits. A tag reads
its arguments one after the other and gives up at the first that it refuses, so such an integer
counts only if the arguments read before it are sound.
-/
namespace Wallboard

namespace Integer

def Readable (text : Text) (value : Int) : Prop :=
  ∃ numeral, Numeral.ofText? text = some numeral ∧ numeral.digits.length ≤ digitLimit ∧
    numeral.value = value

def Overlong (text : Text) (digits : Nat) : Prop :=
  ∃ numeral, Numeral.ofText? text = some numeral ∧ numeral.digits.length = digits ∧
    digitLimit < digits

end Integer

namespace Tag

open Integer

def NaturalOrAbsent (argument : Option Text) : Prop :=
  ∀ text ∈ argument, ∃ value, Readable text value ∧ 0 ≤ value

/-- Reading the arguments of a tag meets an integer with too many digits before any argument that
the tag refuses. -/
def MeetsOverlong (arguments : List Text) (digits : Nat) : TagKind → Prop
  | .mass => ∃ width ∈ argument? arguments 1, Overlong width digits
  | .item =>
      (∃ key, argument? arguments 0 = some key) ∧
        (∀ text ∈ argument? arguments 2, ∃ scale, scale? text = some scale) ∧
        ∃ width ∈ argument? arguments 1, Overlong width digits
  | .gas =>
      (∃ text ∈ argument? arguments 0, ∃ gas, Gas.ofSymbol? (Text.upper text) = some gas) ∧
        ∃ width ∈ argument? arguments 1, Overlong width digits
  | .gps =>
      (∃ text ∈ argument? arguments 0, ∃ axis, Axis.ofSymbol? (Text.upper text) = some axis) ∧
        ((∃ decimals ∈ argument? arguments 2, Overlong decimals digits) ∨
          NaturalOrAbsent (argument? arguments 2) ∧
            ∃ width ∈ argument? arguments 1, Overlong width digits)
  | .power =>
      ∃ divisor ∈ argument? arguments 0,
        Overlong divisor digits ∨
          (∃ value, Readable divisor value) ∧
            ∃ width ∈ argument? arguments 1, Overlong width digits

def StoppedBy (body : Text) (digits : Nat) : Prop :=
  ∃ kind, TagKind.ofName? (Text.cut ':' body).1 = some kind ∧
    MeetsOverlong (arguments kind.arity (Text.cut ':' body).2) digits kind

section Reading

variable {kind : TagKind} {option : IntegerOption} {text : Text} {argument : Option Text}
  {arguments : List Text} {value : Int} {digits : Nat}

theorem readInteger_eq_ok_iff : readInteger kind option text = .ok value ↔ Readable text value := by
  unfold readInteger Readable
  cases written : Numeral.ofText? text with
  | none => simp [refuse]
  | some numeral =>
      by_cases fits : numeral.digits.length ≤ digitLimit
      · simp [Integer.read, fits]
      · simp [Integer.read, fits]

theorem readInteger_eq_oversized_iff :
    readInteger kind option text = .error (.oversized ⟨digits⟩) ↔ Overlong text digits := by
  unfold readInteger Overlong
  cases written : Numeral.ofText? text with
  | none => simp [refuse]
  | some numeral =>
      by_cases fits : numeral.digits.length ≤ digitLimit
      · simp only [Integer.read, fits, if_true, reduceCtorEq, Option.some.injEq,
          exists_eq_left', false_iff]
        omega
      · simp only [Integer.read, fits, if_false, Except.error.injEq, BuildFault.oversized.injEq,
          Oversized.mk.injEq, Option.some.injEq, exists_eq_left', iff_self_and]
        omega

theorem readNatural_eq_ok_iff :
    readNatural kind option text = .ok value ↔ Readable text value ∧ 0 ≤ value := by
  simp only [readNatural, bind_eq_ok_iff, readInteger_eq_ok_iff]
  constructor
  · rintro ⟨found, readable, accepted⟩
    by_cases negative : found < 0
    · simp [negative, refuse] at accepted
    · have same : found = value := by simpa [negative] using accepted
      subst same
      exact ⟨readable, by omega⟩
  · rintro ⟨readable, natural⟩
    exact ⟨value, readable, by simp [show ¬ value < 0 by omega]⟩

theorem readNatural_eq_oversized_iff :
    readNatural kind option text = .error (.oversized ⟨digits⟩) ↔ Overlong text digits := by
  simp only [readNatural, bind_eq_error_iff, readInteger_eq_oversized_iff, or_iff_left_iff_imp]
  rintro ⟨found, _, refused⟩
  by_cases negative : found < 0
  · simp [negative, refuse] at refused
  · simp [negative] at refused

theorem readPadWidth_eq_oversized_iff :
    readPadWidth kind argument = .error (.oversized ⟨digits⟩) ↔
      ∃ width ∈ argument, Overlong width digits := by
  cases argument with
  | none => simp [readPadWidth]
  | some text => simp [readPadWidth, bind_eq_error_iff, readNatural_eq_oversized_iff]

theorem readDecimals_eq_oversized_iff :
    readDecimals argument = .error (.oversized ⟨digits⟩) ↔
      ∃ decimals ∈ argument, Overlong decimals digits := by
  cases argument with
  | none => simp [readDecimals]
  | some text => simp [readDecimals, readNatural_eq_oversized_iff]

theorem readDecimals_succeeds_iff :
    (∃ decimals, readDecimals argument = .ok decimals) ↔ NaturalOrAbsent argument := by
  cases argument with
  | none => simp [readDecimals, NaturalOrAbsent]
  | some text => simp [readDecimals, NaturalOrAbsent, readNatural_eq_ok_iff]

theorem readScale_ne_oversized {numeral : Oversized} :
    readScale argument ≠ .error (.oversized numeral) := by
  cases argument with
  | none => simp [readScale]
  | some text => cases found : scale? text <;> simp [readScale, found, refuse]

theorem readScale_succeeds_iff :
    (∃ scale, readScale argument = .ok scale) ↔
      ∀ text ∈ argument, ∃ scale, scale? text = some scale := by
  cases argument with
  | none => simp [readScale]
  | some text => cases found : scale? text <;> simp [readScale, found, refuse]

theorem buildMass_eq_oversized_iff :
    buildMass arguments = .error (.oversized ⟨digits⟩) ↔ MeetsOverlong arguments digits .mass := by
  simp [buildMass, MeetsOverlong, bind_eq_error_iff, readPadWidth_eq_oversized_iff]

theorem buildItem_eq_oversized_iff :
    buildItem arguments = .error (.oversized ⟨digits⟩) ↔ MeetsOverlong arguments digits .item := by
  simp only [buildItem, MeetsOverlong]
  cases argument? arguments 0 with
  | none => simp [refuse]
  | some key =>
      simp only [bind_eq_error_iff, readScale_ne_oversized, readPadWidth_eq_oversized_iff,
        reduceCtorEq, and_false, exists_false, false_or, or_false, exists_and_right,
        readScale_succeeds_iff]
      simp

theorem buildGas_eq_oversized_iff :
    buildGas arguments = .error (.oversized ⟨digits⟩) ↔ MeetsOverlong arguments digits .gas := by
  simp only [buildGas, MeetsOverlong]
  cases argument? arguments 0 with
  | none => simp [refuse]
  | some symbol =>
      cases named : Gas.ofSymbol? (Text.upper symbol) with
      | none => simp [named, refuse]
      | some gas => simp [named, bind_eq_error_iff, readPadWidth_eq_oversized_iff]

theorem buildCoordinate_eq_oversized_iff :
    buildCoordinate arguments = .error (.oversized ⟨digits⟩) ↔
      MeetsOverlong arguments digits .gps := by
  simp only [buildCoordinate, MeetsOverlong]
  cases argument? arguments 0 with
  | none => simp [refuse]
  | some symbol =>
      cases named : Axis.ofSymbol? (Text.upper symbol) with
      | none => simp [named, refuse]
      | some axis =>
          simp only [named, bind_eq_error_iff, readDecimals_eq_oversized_iff,
            readPadWidth_eq_oversized_iff, reduceCtorEq, and_false, exists_false, or_false,
            exists_and_right, readDecimals_succeeds_iff]
          simp [named]

theorem buildPower_eq_oversized_iff :
    buildPower arguments = .error (.oversized ⟨digits⟩) ↔
      MeetsOverlong arguments digits .power := by
  simp only [buildPower, MeetsOverlong]
  cases argument? arguments 0 with
  | none => simp [refuse]
  | some divisor =>
      simp only [bind_eq_error_iff, readInteger_eq_oversized_iff, readInteger_eq_ok_iff,
        readPadWidth_eq_oversized_iff, reduceCtorEq, and_false, exists_false, or_false,
        exists_and_right]
      simp

theorem buildKind_eq_oversized_iff :
    buildKind kind arguments = .error (.oversized ⟨digits⟩) ↔
      MeetsOverlong arguments digits kind := by
  cases kind with
  | mass => exact buildMass_eq_oversized_iff
  | item => exact buildItem_eq_oversized_iff
  | gas => exact buildGas_eq_oversized_iff
  | gps => exact buildCoordinate_eq_oversized_iff
  | power => exact buildPower_eq_oversized_iff

theorem build_eq_oversized_iff {body : Text} :
    build body = .error (.oversized ⟨digits⟩) ↔ StoppedBy body digits := by
  simp only [build, StoppedBy]
  cases named : TagKind.ofName? (Text.cut ':' body).1 with
  | none => simp
  | some kind => simp [buildKind_eq_oversized_iff]

end Reading

end Tag
end Wallboard
