import Wallboard.Proofs.Markup.Tag
import Wallboard.Proofs.Number.Decimal

namespace Wallboard

namespace Integer

theorem Natural.readable {value : Int} (natural : Natural value) : Readable (text value) value := by
  obtain ⟨nonneg, short⟩ := natural
  have written : Numeral.ofText? (digits value.natAbs) = some ⟨false, digits value.natAbs⟩ :=
    Numeral.ofText?_of_digits (digits_ne_nil _) fun char member => isDigit_of_mem_digits member
  refine ⟨⟨false, digits value.natAbs⟩, ?_, short, ?_⟩
  · rw [text_of_nonneg nonneg, written]
  · simpa [Numeral.value, value_digits] using Int.natAbs_of_nonneg nonneg

theorem Readable.withinLimit {text : Text} {value : Int} (readable : Readable text value) :
    WithinLimit value := by
  obtain ⟨numeral, written, short, rfl⟩ := readable
  obtain ⟨filled, numeric⟩ := Numeral.digits_of_ofText? written
  exact Numeral.withinLimit filled numeric short

end Integer

namespace Tag

open Integer

def PadWidthOf : Option Text → Option Int → Prop
  | none, none => True
  | some text, some width => Readable text width ∧ 0 ≤ width
  | _, _ => False

def ScaleOf (argument : Option Text) (scale : Scale) : Prop :=
  match argument with
  | none => scale = .thousands
  | some text => scale? text = some scale

def DecimalsOf (argument : Option Text) (decimals : Int) : Prop :=
  match argument with
  | none => decimals = 2
  | some text => Readable text decimals ∧ 0 ≤ decimals

def displayOf (argument : Option Text) : GasDisplay :=
  if argument = some ['%'] then .percentage else .absolute

/-- The element of a tag of some kind, by the arguments that are neither missing nor blank. -/
inductive Denotes (arguments : List Text) : TagKind → Element → Prop
  | mass {padWidth : Option Int} (padded : PadWidthOf (argument? arguments 1) padWidth) :
      Denotes arguments .mass (.mass padWidth ((argument? arguments 0).any isDry))
  | item {resourceKey : Text} {padWidth : Option Int} {scale : Scale}
      (given : argument? arguments 0 = some resourceKey)
      (scaled : ScaleOf (argument? arguments 2) scale)
      (padded : PadWidthOf (argument? arguments 1) padWidth) :
      Denotes arguments .item (.itemCount resourceKey padWidth scale)
  | gas {symbol : Text} {gas : Gas} {padWidth : Option Int}
      (given : argument? arguments 0 = some symbol)
      (known : Gas.ofSymbol? (Text.upper symbol) = some gas)
      (padded : PadWidthOf (argument? arguments 1) padWidth) :
      Denotes arguments .gas (.gas gas padWidth (displayOf (argument? arguments 2)))
  | gps {symbol : Text} {axis : Axis} {padWidth : Option Int} {decimals : Int}
      (given : argument? arguments 0 = some symbol)
      (known : Axis.ofSymbol? (Text.upper symbol) = some axis)
      (placed : DecimalsOf (argument? arguments 2) decimals)
      (padded : PadWidthOf (argument? arguments 1) padWidth) :
      Denotes arguments .gps (.coordinate axis padWidth decimals)
  | power {text : Text} {divisor : Int} {padWidth : Option Int}
      (given : argument? arguments 0 = some text) (readable : Readable text divisor)
      (padded : PadWidthOf (argument? arguments 1) padWidth) :
      Denotes arguments .power (.power (max divisor 1) padWidth)

variable {kind : TagKind} {argument : Option Text} {arguments : List Text} {element : Element}
  {padWidth : Option Int}

theorem argument?_eq_some {place : Nat} {text : Text} (found : arguments[place]? = some text)
    (filled : text ≠ []) : argument? arguments place = some text := by
  obtain ⟨head, tail, rfl⟩ := List.exists_cons_of_ne_nil filled
  simp [argument?, found]

theorem argument?_eq_none {place : Nat} (blank : arguments[place]? = some []) :
    argument? arguments place = none := by
  simp [argument?, blank]

theorem of_argument?_eq_some {place : Nat} {text : Text}
    (given : argument? arguments place = some text) : text ∈ arguments ∧ text ≠ [] := by
  unfold argument? at given
  split at given
  · rename_i head tail found
    obtain rfl := Option.some.inj given
    exact ⟨List.mem_of_getElem? found, by simp⟩
  · cases given

theorem readPadWidth_eq_ok_iff :
    readPadWidth kind argument = .ok padWidth ↔ PadWidthOf argument padWidth := by
  cases argument with
  | none => cases padWidth <;> simp [readPadWidth, PadWidthOf]
  | some text =>
      cases padWidth <;>
        simp [readPadWidth, PadWidthOf, bind_eq_ok_iff, readNatural_eq_ok_iff]

theorem readScale_eq_ok_iff {scale : Scale} :
    readScale argument = .ok scale ↔ ScaleOf argument scale := by
  cases argument with
  | none => simp [readScale, ScaleOf, eq_comm]
  | some text => cases found : scale? text <;> simp [readScale, ScaleOf, found, refuse]

theorem readDecimals_eq_ok_iff {decimals : Int} :
    readDecimals argument = .ok decimals ↔ DecimalsOf argument decimals := by
  cases argument with
  | none => simp [readDecimals, DecimalsOf, eq_comm]
  | some text => simp [readDecimals, DecimalsOf, readNatural_eq_ok_iff]

theorem buildMass_eq_ok_iff :
    buildMass arguments = .ok element ↔ Denotes arguments .mass element := by
  simp only [buildMass, bind_eq_ok_iff, readPadWidth_eq_ok_iff, Except.ok.injEq]
  constructor
  · rintro ⟨padWidth, padded, rfl⟩
    exact .mass padded
  · intro denoted
    cases denoted with
    | mass padded => exact ⟨_, padded, rfl⟩

theorem buildItem_eq_ok_iff :
    buildItem arguments = .ok element ↔ Denotes arguments .item element := by
  unfold buildItem
  constructor
  · intro built
    split at built
    · cases built
    · rename_i resourceKey given
      simp only [bind_eq_ok_iff, readScale_eq_ok_iff, readPadWidth_eq_ok_iff,
        Except.ok.injEq] at built
      obtain ⟨scale, scaled, padWidth, padded, rfl⟩ := built
      exact .item given scaled padded
  · intro denoted
    cases denoted with
    | item given scaled padded =>
        simp only [given, bind_eq_ok_iff, readScale_eq_ok_iff, readPadWidth_eq_ok_iff]
        exact ⟨_, scaled, _, padded, rfl⟩

theorem buildGas_eq_ok_iff :
    buildGas arguments = .ok element ↔ Denotes arguments .gas element := by
  unfold buildGas
  constructor
  · intro built
    split at built
    · cases built
    · rename_i symbol given
      split at built
      · cases built
      · rename_i gas known
        simp only [bind_eq_ok_iff, readPadWidth_eq_ok_iff, Except.ok.injEq] at built
        obtain ⟨padWidth, padded, rfl⟩ := built
        exact .gas given known padded
  · intro denoted
    cases denoted with
    | gas given known padded =>
        simp only [given, known, bind_eq_ok_iff, readPadWidth_eq_ok_iff]
        exact ⟨_, padded, rfl⟩

theorem buildCoordinate_eq_ok_iff :
    buildCoordinate arguments = .ok element ↔ Denotes arguments .gps element := by
  unfold buildCoordinate
  constructor
  · intro built
    split at built
    · cases built
    · rename_i symbol given
      split at built
      · cases built
      · rename_i axis known
        simp only [bind_eq_ok_iff, readDecimals_eq_ok_iff, readPadWidth_eq_ok_iff,
          Except.ok.injEq] at built
        obtain ⟨decimals, placed, padWidth, padded, rfl⟩ := built
        exact .gps given known placed padded
  · intro denoted
    cases denoted with
    | gps given known placed padded =>
        simp only [given, known, bind_eq_ok_iff, readDecimals_eq_ok_iff, readPadWidth_eq_ok_iff]
        exact ⟨_, placed, _, padded, rfl⟩

theorem buildPower_eq_ok_iff :
    buildPower arguments = .ok element ↔ Denotes arguments .power element := by
  unfold buildPower
  constructor
  · intro built
    split at built
    · cases built
    · rename_i text given
      simp only [bind_eq_ok_iff, readInteger_eq_ok_iff, readPadWidth_eq_ok_iff,
        Except.ok.injEq] at built
      obtain ⟨divisor, readable, padWidth, padded, rfl⟩ := built
      exact .power given readable padded
  · intro denoted
    cases denoted with
    | power given readable padded =>
        simp only [given, bind_eq_ok_iff, readInteger_eq_ok_iff, readPadWidth_eq_ok_iff]
        exact ⟨_, readable, _, padded, rfl⟩

theorem buildKind_eq_ok_iff :
    buildKind kind arguments = .ok element ↔ Denotes arguments kind element := by
  cases kind with
  | mass => exact buildMass_eq_ok_iff
  | item => exact buildItem_eq_ok_iff
  | gas => exact buildGas_eq_ok_iff
  | gps => exact buildCoordinate_eq_ok_iff
  | power => exact buildPower_eq_ok_iff

theorem build_eq_ok_iff {body : Text} :
    build body = .ok element ↔
      ∃ kind, TagKind.ofName? (Text.cut ':' body).1 = some kind ∧
        Denotes (Tag.arguments kind.arity (Text.cut ':' body).2) kind element := by
  simp only [build]
  cases named : TagKind.ofName? (Text.cut ':' body).1 with
  | none => simp
  | some kind => simp [buildKind_eq_ok_iff]

end Tag
end Wallboard
