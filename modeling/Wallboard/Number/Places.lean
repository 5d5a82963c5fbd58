import Wallboard.Number.Shortest

/-!
The absolute value of a double with a chosen number of digits: fixed after the point, in scientific
form, or whichever of the two suits its size. The exact value is rounded, halves to the even digit.
-/
namespace Wallboard.Binary64

/-- The digits of a number in units of the last of some places, with a point before those places.
Without places the point is left out unless it is `kept`. -/
def pointed (kept : Bool) (places units : Nat) : Text :=
  let digits := Integer.digits units
  let digits := List.replicate (places + 1 - digits.length) '0' ++ digits
  let whole := digits.take (digits.length - places)
  if places = 0 && !kept then whole else whole ++ '.' :: digits.drop (digits.length - places)

/-- The absolute value of a finite double in units of `10 ^ (-places)`. -/
def units (places : Int) (double : Binary64) : Nat :=
  roundedQuotient .toEven
    (double.significand * Nat.pow 2 double.scale.toNat * Nat.pow 10 places.toNat)
    (Nat.pow 2 (-double.scale).toNat * Nat.pow 10 (-places).toNat)

def fixed (kept : Bool) (places : Nat) (double : Binary64) : Text :=
  pointed kept places (double.units places)

def order (double : Binary64) : Int :=
  if double.significand = 0 then 0
  else
    decimalOrder (double.significand * Nat.pow 2 double.scale.toNat)
      (Nat.pow 2 (-double.scale).toNat)

/-- A coefficient of `places + 1` digits and the power of ten of the first of them. Rounding may
carry into a new leading digit. -/
def scientificParts (places : Nat) (double : Binary64) : Nat × Int :=
  let coefficient := double.units (places - double.order)
  if Nat.pow 10 (places + 1) ≤ coefficient then (coefficient / 10, double.order + 1)
  else (coefficient, double.order)

def scientific (kept : Bool) (places : Nat) (double : Binary64) : Text :=
  let (coefficient, order) := double.scientificParts places
  pointed kept places coefficient ++ exponentText order

def dropPlaces (text : Text) : Text :=
  if text.contains '.' then Text.dropTrailing '.' (Text.dropTrailing '0' text) else text

/-- At most `digits` digits, scientific if the leading digit is right of the fourth place or too
far left; trailing zeros stay only if the point is `kept`. -/
def general (kept : Bool) (digits : Nat) (double : Binary64) : Text :=
  let digits := max 1 digits
  let (coefficient, order) := double.scientificParts (digits - 1)
  let tidy (text : Text) : Text := if kept then text else dropPlaces text
  if order < -4 ∨ digits ≤ order then
    tidy (pointed kept (digits - 1) coefficient) ++ exponentText order
  else tidy (double.fixed kept (digits - 1 - order).toNat)

end Wallboard.Binary64
