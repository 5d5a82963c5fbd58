import Wallboard.Markup.Element
import Wallboard.Markup.Error
import Wallboard.Text.Blank
import Wallboard.Text.Case

/-!
Building an element from the body of a tag: a kind and, after a colon, arguments between commas.
Arguments are positional; one that is blank counts as left out.
-/
namespace Wallboard.Tag

abbrev Build (α : Type) := Except BuildFault α

def refuse {α : Type} (kind : TagKind) (fault : OptionFault) : Build α :=
  .error (.rejected (.invalidOption kind fault))

def arguments (arity : Nat) : Option Text → List Text
  | none => []
  | some text => ((Text.splitAt ',' text).map Text.strip).take arity

def argument? (arguments : List Text) (place : Nat) : Option Text :=
  match arguments[place]? with
  | some (char :: rest) => some (char :: rest)
  | _ => none

def readInteger (kind : TagKind) (option : IntegerOption) (text : Text) : Build Int :=
  match Integer.Numeral.ofText? text with
  | none => refuse kind (.notInteger option text)
  | some numeral =>
      match Integer.read numeral with
      | .ok value => .ok value
      | .error oversized => .error (.oversized oversized)

def readNatural (kind : TagKind) (option : IntegerOption) (text : Text) : Build Int := do
  let value ← readInteger kind option text
  if value < 0 then refuse kind (.negative option value) else .ok value

def readPadWidth (kind : TagKind) : Option Text → Build (Option Int)
  | none => .ok none
  | some text => do
      let width ← readNatural kind .padWidth text
      .ok (some width)

def isDry (text : Text) : Bool := decide (Text.lower text = "dry".toList)

/-- The scale that the first letter of a text names, in either case. -/
def scale? : Text → Option Scale
  | [] => none
  | letter :: _ => Scale.ofLetter? (Text.lowerChar letter)

def buildMass (arguments : List Text) : Build Element := do
  let padWidth ← readPadWidth .mass (argument? arguments 1)
  .ok (.mass padWidth ((argument? arguments 0).any isDry))

def readScale : Option Text → Build Scale
  | none => .ok .thousands
  | some text =>
      match scale? text with
      | some scale => .ok scale
      | none => refuse .item (.scaleUnknown text)

def buildItem (arguments : List Text) : Build Element :=
  match argument? arguments 0 with
  | none => refuse .item .resourceMissing
  | some resourceKey => do
      let scale ← readScale (argument? arguments 2)
      let padWidth ← readPadWidth .item (argument? arguments 1)
      .ok (.itemCount resourceKey padWidth scale)

def buildGas (arguments : List Text) : Build Element :=
  match argument? arguments 0 with
  | none => refuse .gas .gasMissing
  | some text =>
      match Gas.ofSymbol? (Text.upper text) with
      | none => refuse .gas (.gasUnknown text)
      | some gas => do
          let display :=
            if argument? arguments 2 = some ['%'] then GasDisplay.percentage else .absolute
          let padWidth ← readPadWidth .gas (argument? arguments 1)
          .ok (.gas gas padWidth display)

def readDecimals : Option Text → Build Int
  | none => .ok 2
  | some text => readNatural .gps .decimals text

def buildCoordinate (arguments : List Text) : Build Element :=
  match argument? arguments 0 with
  | none => refuse .gps .axisMissing
  | some text =>
      match Axis.ofSymbol? (Text.upper text) with
      | none => refuse .gps (.axisUnknown text)
      | some axis => do
          let decimals ← readDecimals (argument? arguments 2)
          let padWidth ← readPadWidth .gps (argument? arguments 1)
          .ok (.coordinate axis padWidth decimals)

def buildPower (arguments : List Text) : Build Element :=
  match argument? arguments 0 with
  | none => refuse .power .divisorMissing
  | some text => do
      let divisor ← readInteger .power .divisor text
      let padWidth ← readPadWidth .power (argument? arguments 1)
      .ok (.power (max divisor 1) padWidth)

def buildKind (kind : TagKind) (arguments : List Text) : Build Element :=
  match kind with
  | .mass => buildMass arguments
  | .item => buildItem arguments
  | .gas => buildGas arguments
  | .gps => buildCoordinate arguments
  | .power => buildPower arguments

def build (body : Text) : Build Element :=
  let (name, rest) := Text.cut ':' body
  match TagKind.ofName? name with
  | none => .error (.rejected (.unknownElementKind name))
  | some kind => buildKind kind (arguments kind.arity rest)

end Wallboard.Tag
