import Wallboard.Proofs.Markup.Build
import Wallboard.Proofs.Markup.Compile
import Wallboard.Proofs.Text.Split

/-!
The canonical way to write an element: a literal as its text, and any other element as a tag with
all of its arguments. Canonical elements are the ones that markup can stand for, and each is read
from the way it is written.
-/
namespace Wallboard

open Integer

def Tag.bodyOf (kind : TagKind) (arguments : List Text) : Text :=
  kind.name ++ ':' :: Text.join [','] arguments

def widthText : Option Int → Text
  | none => []
  | some width => Integer.text width

def flagText (dry : Bool) : Text := if dry then "dry".toList else "wet".toList

def displayText : GasDisplay → Text
  | .absolute => "absolute".toList
  | .percentage => ['%']

namespace Element

def piece : Element → Piece
  | literal text => ⟨.literal, text⟩
  | mass padWidth dry =>
      ⟨.tag, Tag.bodyOf .mass [flagText dry, widthText padWidth]⟩
  | itemCount resourceKey padWidth scale =>
      ⟨.tag, Tag.bodyOf .item [resourceKey, widthText padWidth, [scale.letter]]⟩
  | gas kind padWidth display =>
      ⟨.tag, Tag.bodyOf .gas [kind.symbol, widthText padWidth, displayText display]⟩
  | coordinate axis padWidth decimals =>
      ⟨.tag, Tag.bodyOf .gps [axis.symbol, widthText padWidth, Integer.text decimals]⟩
  | power divisor padWidth =>
      ⟨.tag, Tag.bodyOf .power [Integer.text divisor, widthText padWidth]⟩

def NaturalWidth (padWidth : Option Int) : Prop := ∀ width ∈ padWidth, Natural width

def Canonical : Element → Prop
  | literal text => text ≠ [] ∧ '<' ∉ text
  | mass padWidth _ => NaturalWidth padWidth
  | itemCount resourceKey padWidth _ =>
      (resourceKey ≠ [] ∧ ',' ∉ resourceKey ∧ '>' ∉ resourceKey ∧ Text.Trimmed resourceKey) ∧
        NaturalWidth padWidth
  | gas _ padWidth _ => NaturalWidth padWidth
  | coordinate _ padWidth decimals => Natural decimals ∧ NaturalWidth padWidth
  | power divisor padWidth => (1 ≤ divisor ∧ WithinLimit divisor) ∧ NaturalWidth padWidth

end Element

namespace Tag

/-- An argument that is read as it is written. -/
structure Plain (argument : Text) : Prop where
  unsplit : ',' ∉ argument
  unclosed : '>' ∉ argument
  trimmed : Text.Trimmed argument

def isSolid (char : Char) : Bool := char != ',' && char != '>' && !Text.isBlank char

theorem Plain.of_solid {argument : Text} (solid : argument.all isSolid = true) :
    Plain argument := by
  have each : ∀ char ∈ argument, char ≠ ',' ∧ char ≠ '>' ∧ Text.isBlank char = false := by
    simpa [isSolid, and_assoc] using solid
  constructor
  case unsplit =>
    intro member
    exact (each ',' member).1 rfl
  case unclosed =>
    intro member
    exact (each '>' member).2.1 rfl
  case trimmed =>
    constructor
    · intro char first
      exact (each char (List.mem_of_mem_head? first)).2.2
    · intro char last
      exact (each char (List.mem_of_mem_getLast? last)).2.2

theorem Plain.nil : Plain [] := .of_solid rfl

theorem Plain.natural {value : Int} (natural : Natural value) : Plain (Integer.text value) := by
  rw [text_of_nonneg natural.1]
  apply Plain.of_solid
  rw [List.all_eq_true]
  intro char member
  have digit : char.isDigit = true := isDigit_of_mem_digits member
  have notComma : char ≠ ',' := by
    rintro rfl
    cases digit
  have notBracket : char ≠ '>' := by
    rintro rfl
    cases digit
  simp [isSolid, notComma, notBracket, Text.isBlank_of_isDigit digit]

theorem Plain.width {padWidth : Option Int} (natural : Element.NaturalWidth padWidth) :
    Plain (widthText padWidth) := by
  cases padWidth with
  | none => exact Plain.nil
  | some width => exact Plain.natural (natural width rfl)

variable {kind : TagKind} {arguments : List Text} {element : Element} {body : Text}

theorem arguments_join (filled : arguments ≠ []) (plain : ∀ argument ∈ arguments, Plain argument) :
    Tag.arguments arguments.length (some (Text.join [','] arguments)) = arguments := by
  have split : Text.splitAt ',' (Text.join [','] arguments) = arguments :=
    Text.splitAt_join filled fun argument member => (plain argument member).unsplit
  have kept : arguments.map Text.strip = arguments := by
    rw [List.map_congr_left fun argument member =>
      Text.strip_of_trimmed (plain argument member).trimmed]
    exact List.map_id arguments
  rw [Tag.arguments, split, kept, List.take_length]

theorem build_bodyOf (plain : ∀ argument ∈ arguments, Plain argument)
    (complete : arguments.length = kind.arity) (denoted : Denotes arguments kind element) :
    build (bodyOf kind arguments) = .ok element := by
  have named : ':' ∉ kind.name := by cases kind <;> decide
  have known : TagKind.ofName? kind.name = some kind := by cases kind <;> decide
  have filled : arguments ≠ [] := by
    rintro rfl
    cases kind <;> cases complete
  rw [build_eq_ok_iff, bodyOf, Text.cut_append named]
  refine ⟨kind, known, ?_⟩
  rw [← complete, arguments_join filled plain]
  exact denoted

theorem unclosed_bodyOf (plain : ∀ argument ∈ arguments, Plain argument) :
    '>' ∉ bodyOf kind arguments := by
  have named : '>' ∉ kind.name ++ [':'] := by cases kind <;> decide
  have joined : '>' ∉ Text.join [','] arguments := by
    intro member
    rcases Text.mem_of_mem_join member with separator | ⟨argument, among, member⟩
    · simp at separator
    · exact (plain argument among).unclosed member
  simpa [bodyOf] using And.intro named joined

theorem plain_arguments (unclosed : '>' ∉ body) {arity : Nat} :
    ∀ argument ∈ Tag.arguments arity (Text.cut ':' body).2, Plain argument := by
  intro argument member
  cases found : (Text.cut ':' body).2 with
  | none =>
      rw [found] at member
      cases member
  | some after =>
      rw [found, Tag.arguments] at member
      obtain ⟨raw, among, rfl⟩ := List.mem_map.mp (List.mem_of_mem_take member)
      obtain ⟨unsplit, part⟩ := Text.of_mem_splitAt among
      constructor
      case unsplit =>
        intro inside
        exact unsplit (Text.mem_of_mem_strip inside)
      case unclosed =>
        intro inside
        have tail : '>' ∈ after := part '>' (Text.mem_of_mem_strip inside)
        rw [Text.cut_eq_some found] at unclosed
        exact unclosed (List.mem_append_right _ (List.mem_cons_of_mem ':' tail))
      case trimmed => exact Text.trimmed_strip raw

theorem PadWidthOf.natural {argument : Option Text} {padWidth : Option Int}
    (padded : PadWidthOf argument padWidth) : Element.NaturalWidth padWidth := by
  intro width member
  obtain rfl := Option.mem_def.mp member
  cases argument with
  | none => cases padded
  | some text => exact ⟨padded.2, padded.1.withinLimit⟩

theorem DecimalsOf.natural {argument : Option Text} {decimals : Int}
    (placed : DecimalsOf argument decimals) : Natural decimals := by
  cases argument with
  | none =>
      obtain rfl : decimals = 2 := placed
      exact ⟨by decide, by decide⟩
  | some text => exact ⟨placed.2, placed.1.withinLimit⟩

theorem Denotes.canonical (plain : ∀ argument ∈ arguments, Plain argument)
    (denoted : Denotes arguments kind element) :
    element.Canonical ∧ element.isLiteral = false := by
  cases denoted with
  | mass padded => exact ⟨padded.natural, rfl⟩
  | item given scaled padded =>
      obtain ⟨member, filled⟩ := of_argument?_eq_some given
      have key := plain _ member
      exact ⟨⟨⟨filled, key.unsplit, key.unclosed, key.trimmed⟩, padded.natural⟩, rfl⟩
  | gas given known padded => exact ⟨padded.natural, rfl⟩
  | gps given known placed padded => exact ⟨⟨placed.natural, padded.natural⟩, rfl⟩
  | power given readable padded =>
      refine ⟨⟨⟨Int.le_max_right _ 1, ?_⟩, padded.natural⟩, rfl⟩
      rcases Int.le_total 1 _ with positive | small
      · rw [Int.max_eq_left positive]
        exact readable.withinLimit
      · rw [Int.max_eq_right small]
        decide

theorem padWidthOf_widthText {padWidth : Option Int} (natural : Element.NaturalWidth padWidth)
    (found : arguments[1]? = some (widthText padWidth)) :
    PadWidthOf (argument? arguments 1) padWidth := by
  cases padWidth with
  | none =>
      rw [argument?_eq_none found]
      trivial
  | some width =>
      have number : Natural width := natural width rfl
      rw [argument?_eq_some found (text_ne_nil width)]
      exact ⟨number.readable, number.1⟩

theorem read_bodyOf (plain : ∀ argument ∈ arguments, Plain argument)
    (complete : arguments.length = kind.arity) (denoted : Denotes arguments kind element) :
    Piece.Proper ⟨.tag, bodyOf kind arguments⟩ ∧
      Piece.element ⟨.tag, bodyOf kind arguments⟩ = .ok element :=
  ⟨unclosed_bodyOf plain, build_bodyOf plain complete denoted⟩

end Tag

namespace Element

open Tag

def Read (element : Element) : Prop :=
  element.piece.Proper ∧ element.piece.element = .ok element

variable {padWidth : Option Int}

theorem read_mass (padded : NaturalWidth padWidth) (dry : Bool) : (mass padWidth dry).Read := by
  have word : Plain (flagText dry) := by
    apply Plain.of_solid
    cases dry <;> decide
  have flag : (argument? [flagText dry, widthText padWidth] 0).any isDry = dry := by
    cases dry <;> rfl
  have denoted : Denotes [flagText dry, widthText padWidth] .mass
      (mass padWidth ((argument? [flagText dry, widthText padWidth] 0).any isDry)) :=
    .mass (padWidthOf_widthText padded rfl)
  rw [flag] at denoted
  exact read_bodyOf (by simpa using ⟨word, Plain.width padded⟩) rfl denoted

theorem read_itemCount {resourceKey : Text} (filled : resourceKey ≠ [])
    (plain : Plain resourceKey) (padded : NaturalWidth padWidth) (scale : Scale) :
    (itemCount resourceKey padWidth scale).Read := by
  have letter : Plain [scale.letter] := by
    apply Plain.of_solid
    cases scale <;> decide
  have scaled : ScaleOf (argument? [resourceKey, widthText padWidth, [scale.letter]] 2) scale := by
    cases scale <;> rfl
  apply read_bodyOf (by simpa using ⟨plain, Plain.width padded, letter⟩) rfl
  exact .item (argument?_eq_some rfl filled) scaled (padWidthOf_widthText padded rfl)

theorem read_gas (kind : Gas) (padded : NaturalWidth padWidth) (display : GasDisplay) :
    (gas kind padWidth display).Read := by
  have symbol : Plain kind.symbol := by
    apply Plain.of_solid
    cases kind <;> decide
  have sign : Plain (displayText display) := by
    apply Plain.of_solid
    cases display <;> decide
  have filled : kind.symbol ≠ [] := by cases kind <;> decide
  have known : Gas.ofSymbol? (Text.upper kind.symbol) = some kind := by
    cases kind <;> decide +kernel
  have shown : displayOf (argument? [kind.symbol, widthText padWidth, displayText display] 2) =
      display := by
    cases display <;> rfl
  have denoted : Denotes [kind.symbol, widthText padWidth, displayText display] .gas
      (gas kind padWidth
        (displayOf (argument? [kind.symbol, widthText padWidth, displayText display] 2))) :=
    .gas (argument?_eq_some rfl filled) known (padWidthOf_widthText padded rfl)
  rw [shown] at denoted
  exact read_bodyOf (by simpa using ⟨symbol, Plain.width padded, sign⟩) rfl denoted

theorem read_coordinate (axis : Axis) (padded : NaturalWidth padWidth) {decimals : Int}
    (natural : Natural decimals) : (coordinate axis padWidth decimals).Read := by
  have symbol : Plain axis.symbol := by
    apply Plain.of_solid
    cases axis <;> decide
  have filled : axis.symbol ≠ [] := by cases axis <;> decide
  have known : Axis.ofSymbol? (Text.upper axis.symbol) = some axis := by
    cases axis <;> decide +kernel
  have placed : DecimalsOf (argument? [axis.symbol, widthText padWidth, Integer.text decimals] 2)
      decimals := by
    rw [argument?_eq_some rfl (text_ne_nil decimals)]
    exact ⟨natural.readable, natural.1⟩
  apply read_bodyOf (by simpa using ⟨symbol, Plain.width padded, Plain.natural natural⟩) rfl
  exact .gps (argument?_eq_some rfl filled) known placed (padWidthOf_widthText padded rfl)

theorem read_power {divisor : Int} (positive : 1 ≤ divisor) (short : WithinLimit divisor)
    (padded : NaturalWidth padWidth) : (power divisor padWidth).Read := by
  have natural : Natural divisor := ⟨by omega, short⟩
  have denoted : Denotes [Integer.text divisor, widthText padWidth] .power
      (power (max divisor 1) padWidth) :=
    .power (argument?_eq_some rfl (text_ne_nil divisor)) natural.readable
      (padWidthOf_widthText padded rfl)
  rw [Int.max_eq_left positive] at denoted
  exact read_bodyOf (by simpa using ⟨Plain.natural natural, Plain.width padded⟩) rfl denoted

theorem Canonical.read {element : Element} (canonical : element.Canonical) : element.Read := by
  cases element with
  | literal text => exact ⟨canonical, rfl⟩
  | mass padWidth dry => exact read_mass canonical dry
  | itemCount resourceKey padWidth scale =>
      obtain ⟨⟨filled, unsplit, unclosed, trimmed⟩, padded⟩ := canonical
      exact read_itemCount filled ⟨unsplit, unclosed, trimmed⟩ padded scale
  | gas kind padWidth display => exact read_gas kind canonical display
  | coordinate axis padWidth decimals => exact read_coordinate axis canonical.2 canonical.1
  | power divisor padWidth => exact read_power canonical.1.1 canonical.1.2 canonical.2

theorem canonical_of_read {piece : Piece} {element : Element} (proper : piece.Proper)
    (read : piece.element = .ok element) :
    element.Canonical ∧ element.isLiteral = decide (piece.kind = .literal) := by
  rcases piece with ⟨kind, body⟩
  cases kind with
  | literal =>
      obtain rfl : literal body = element := Except.ok.inj read
      exact ⟨proper, rfl⟩
  | tag =>
      obtain ⟨kind, _, denoted⟩ := build_eq_ok_iff.mp read
      exact denoted.canonical (plain_arguments proper)

end Element
end Wallboard
