import Wallboard.Number.Integer
import Wallboard.Text.Quoted

namespace Wallboard

inductive TagKind
  | mass
  | item
  | gas
  | gps
  | power
  deriving DecidableEq

namespace TagKind

def name : TagKind → Text
  | mass => "mass".toList
  | item => "item".toList
  | gas => "gas".toList
  | gps => "gps".toList
  | power => "power".toList

def all : List TagKind := [mass, item, gas, gps, power]

def ofName? (name : Text) : Option TagKind := all.find? fun kind => decide (kind.name = name)

/-- The number of arguments that a tag takes; further ones are ignored. -/
def arity : TagKind → Nat
  | mass => 2
  | item => 3
  | gas => 3
  | gps => 3
  | power => 2

end TagKind

inductive IntegerOption
  | padWidth
  | decimals
  | divisor
  deriving DecidableEq

def IntegerOption.name : IntegerOption → Text
  | padWidth => "pad width".toList
  | decimals => "decimals".toList
  | divisor => "scale divisor".toList

inductive OptionFault
  | notInteger (option : IntegerOption) (text : Text)
  | negative (option : IntegerOption) (value : Int)
  | resourceMissing
  | scaleUnknown (text : Text)
  | gasMissing
  | gasUnknown (text : Text)
  | axisMissing
  | axisUnknown (text : Text)
  | divisorMissing
  deriving DecidableEq

def OptionFault.message : OptionFault → Text
  | notInteger option text => option.name ++ " must be an integer, got ".toList ++ Text.quoted text
  | negative option value =>
      option.name ++ " must not be negative, got ".toList ++ Integer.text value
  | resourceMissing => "resource key is required".toList
  | scaleUnknown text => "unknown scale mode ".toList ++ Text.quoted text
  | gasMissing => "gas kind is required".toList
  | gasUnknown text => "unknown gas kind ".toList ++ Text.quoted text
  | axisMissing => "axis is required".toList
  | axisUnknown text => "unknown axis ".toList ++ Text.quoted text
  | divisorMissing => "scale divisor is required".toList

inductive MarkupError
  | unterminatedTag (offset : Nat)
  | unknownElementKind (kind : Text)
  | invalidOption (kind : TagKind) (fault : OptionFault)
  deriving DecidableEq

namespace MarkupError

def name : MarkupError → Text
  | unterminatedTag _ => "UnterminatedTag".toList
  | unknownElementKind _ => "UnknownElementKind".toList
  | invalidOption .. => "InvalidOption".toList

def message : MarkupError → Text
  | unterminatedTag offset =>
      "Unterminated tag starting at offset ".toList ++ Integer.digits offset ++ ['.']
  | unknownElementKind kind => "Unknown element kind ".toList ++ Text.quoted kind ++ ['.']
  | invalidOption kind fault =>
      "Invalid option for ".toList ++ Text.quoted kind.name ++ ": ".toList ++ fault.message

def offset? : MarkupError → Option Nat
  | unterminatedTag offset => some offset
  | _ => none

end MarkupError

/-- Why a tag cannot be built: its markup is wrong, or one of its integers is too long to read.
The latter is no fault of the template and stops whatever was compiling it. -/
inductive BuildFault
  | rejected (error : MarkupError)
  | oversized (numeral : Integer.Oversized)
  deriving DecidableEq

end Wallboard
