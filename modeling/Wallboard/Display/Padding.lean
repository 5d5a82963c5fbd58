import Wallboard.Number.Integer

namespace Wallboard

inductive DisplayFault
  | unprintableInteger
  | widthOutOfRange
  | precisionOutOfRange
  | precisionTooLarge
  | invalidOperation
  | exponentTooLarge
  | negativePlaces
  | zeroDivisor
  deriving DecidableEq

def beyondWordMessage : Text := "Python int too large to convert to C ssize_t".toList

def DisplayFault.message : DisplayFault → Text
  | unprintableInteger => Integer.unprintableMessage
  | widthOutOfRange => beyondWordMessage
  | precisionOutOfRange => beyondWordMessage
  | precisionTooLarge => "valid range for prec is [1, MAX_PREC]".toList
  | invalidOperation => "[<class 'decimal.InvalidOperation'>]".toList
  | exponentTooLarge => "[<class 'decimal.Overflow'>]".toList
  | negativePlaces => "invalid format string".toList
  | zeroDivisor => "integer division or modulo by zero".toList

namespace Display

def fitsWord (value : Int) : Bool :=
  decide (-(Nat.pow 2 63 : Int) ≤ value ∧ value < (Nat.pow 2 63 : Int))

/-- Text led by spaces up to a width; text that is wide enough, and any text at a negative width,
stays as it is. -/
def padded (text : Text) : Option Int → Except DisplayFault Text
  | none => .ok text
  | some width =>
      if fitsWord width then .ok (List.replicate (width.toNat - text.length) ' ' ++ text)
      else .error .widthOutOfRange

def printed (value : Int) : Except DisplayFault Text :=
  match Integer.print? value with
  | some text => .ok text
  | none => .error .unprintableInteger

def paddedInteger (value : Int) (padWidth : Option Int) : Except DisplayFault Text := do
  let text ← printed value
  padded text padWidth

end Display
end Wallboard
