import Wallboard.Snapshot

/-!
The elements of a compiled template. A literal stands for itself and every other element for a
value of the snapshot. An absent pad width leaves the text as long as it is.
-/
namespace Wallboard

inductive Scale
  | units
  | thousands
  | millions
  deriving DecidableEq

namespace Scale

def letter : Scale → Char
  | units => 'n'
  | thousands => 'k'
  | millions => 'm'

def ofLetter? : Text → Option Scale
  | ['n'] => some units
  | ['k'] => some thousands
  | ['m'] => some millions
  | _ => none

end Scale

inductive GasDisplay
  | absolute
  | percentage
  deriving DecidableEq

inductive Element
  | literal (text : Text)
  | mass (padWidth : Option Int) (dry : Bool)
  | itemCount (resourceKey : Text) (padWidth : Option Int) (scale : Scale)
  | gas (kind : Gas) (padWidth : Option Int) (display : GasDisplay)
  | coordinate (axis : Axis) (padWidth : Option Int) (decimals : Int)
  | power (divisor : Int) (padWidth : Option Int)
  deriving DecidableEq

namespace Element

def kindName : Element → Text
  | literal .. => "Literal".toList
  | mass .. => "Mass".toList
  | itemCount .. => "ItemCount".toList
  | gas .. => "Gas".toList
  | coordinate .. => "GpsCoordinate".toList
  | power .. => "Power".toList

def isLiteral : Element → Bool
  | literal _ => true
  | _ => false

end Element
end Wallboard
