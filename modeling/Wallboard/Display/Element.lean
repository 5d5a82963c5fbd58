import Wallboard.Display.Currency
import Wallboard.Markup.Element

namespace Wallboard.Display

def missing : Text := ['-']

/-- An amount in units, or above its threshold in thousands or millions. The thresholds are
strict, and the letter follows the padding. -/
def scaled (value : Int) (padWidth : Option Int) (scale : Scale) : Except DisplayFault Text :=
  if scale = .thousands ∧ 1000 < value then do
    let text ← paddedInteger (truncatedQuotient value 1000) padWidth
    .ok (text ++ ['K'])
  else if scale = .millions ∧ 1000000 < value then do
    let text ← paddedInteger (truncatedQuotient value 1000000) padWidth
    .ok (text ++ ['M'])
  else paddedInteger value padWidth

/-- The fill of a tank in hundredths, rounded down; a tank without capacity is measured by one. -/
def fillPercentage (tank : Tank) : Int :=
  (tank.current * 100).fdiv (if tank.capacity = 0 then 1 else tank.capacity)

def gas (tank : Option Tank) (padWidth : Option Int) : GasDisplay → Except DisplayFault Text
  | .percentage =>
      match tank with
      | none => padded ['0'] padWidth
      | some tank => paddedInteger (fillPercentage tank) padWidth
  | .absolute =>
      match tank with
      | none => padded missing padWidth
      | some tank => scaled tank.current padWidth .thousands

def element (snapshot : Snapshot) : Element → Except DisplayFault Text
  | .literal text => .ok text
  | .mass padWidth _ => paddedInteger (truncatedQuotient snapshot.totalMassKg 1000) padWidth
  | .itemCount resourceKey padWidth scale =>
      match snapshot.quantity? resourceKey with
      | none => padded missing padWidth
      | some value => scaled value padWidth scale
  | .gas kind padWidth display => gas (snapshot.tank? kind) padWidth display
  | .coordinate axis padWidth decimals => do
      let text ← Currency.text (snapshot.position.along axis) decimals
      padded text padWidth
  | .power divisor padWidth =>
      if divisor = 0 then .error .zeroDivisor
      else paddedInteger (truncatedQuotient snapshot.powerRaw divisor) padWidth

end Wallboard.Display
