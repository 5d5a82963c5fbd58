import Wallboard.Display.Padding
import Wallboard.Number.Shortest

/-!
Coordinates in the form of an amount of money: the shortest decimal of the double rounded to a
number of places with halves away from zero, commas between thousands, and parentheses around a
negative amount.
-/
namespace Wallboard.Display.Currency

/-- The power of ten of the leading digit; zero counts as written with one place. -/
def leadingOrder (double : Binary64) : Int :=
  if !double.isFinite then 0
  else if double.significand = 0 then -1
  else
    let decimal := double.shortest
    (Integer.digits decimal.coefficient).length - 1 + decimal.exponent

/-- The digits needed for the whole part, the places and a carry, and never fewer than 28. -/
def precision (double : Binary64) (decimals : Int) : Int :=
  max 28 (leadingOrder double + decimals + 2)

def precisionLimit : Int := 999999999999999999

/-- The absolute value in units of the last of `places` decimal places, a half rounded up. -/
def roundedUnits (decimal : Decimal) (places : Nat) : Nat :=
  let shift := decimal.exponent + places
  roundedQuotient .up (decimal.coefficient * Nat.pow 10 shift.toNat) (Nat.pow 10 (-shift).toNat)

def hasRoom (precision : Int) (decimal : Decimal) (places : Nat) : Bool :=
  decide ((Integer.digits (roundedUnits decimal places)).length ≤ precision)

/-- Reversed digits with a comma after every third one that another digit follows. -/
def groupReversed : Text → Text
  | a :: b :: c :: d :: rest => a :: b :: c :: ',' :: groupReversed (d :: rest)
  | short => short

def grouped (digits : Text) : Text := (groupReversed digits.reverse).reverse

def dollars (units places : Nat) : Text :=
  let fraction := Integer.digits (units % Nat.pow 10 places)
  let point := if places = 0 then [] else '.' :: List.replicate (places - fraction.length) '0' ++ fraction
  '$' :: grouped (Integer.digits (units / Nat.pow 10 places)) ++ point

def amount (decimal : Decimal) (places : Nat) : Text :=
  let units := roundedUnits decimal places
  let body := dollars units places
  if decimal.negative && units != 0 then '(' :: body ++ [')'] else body

/-- The outcome at a negative number of places, which never is a text. -/
def refusal (double : Binary64) (decimals : Int) (precision : Int) : DisplayFault :=
  if 2 * (999999 + precision) < -decimals then .invalidOperation
  else if 999999 < -decimals then .exponentTooLarge
  else if double.isFinite || double.isNan then .negativePlaces
  else .invalidOperation

def text (double : Binary64) (decimals : Int) : Except DisplayFault Text :=
  let precision := precision double decimals
  if !fitsWord precision then .error .precisionOutOfRange
  else if precisionLimit < precision then .error .precisionTooLarge
  else if decimals < 0 then .error (refusal double decimals precision)
  else if !double.isFinite then .error .invalidOperation
  else if !hasRoom precision double.shortest decimals.toNat then .error .invalidOperation
  else .ok (amount double.shortest decimals.toNat)

example : amount ⟨true, 12345, -1⟩ 2 = "($1,234.50)".toList := by decide +kernel

example : amount ⟨true, 4, -3⟩ 2 = "$0.00".toList := by decide +kernel

end Wallboard.Display.Currency
