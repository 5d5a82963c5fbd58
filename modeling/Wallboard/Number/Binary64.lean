import Wallboard.Number.Integer
import Wallboard.Number.Rounding

/-!
Doubles by their bits, and the double nearest to a decimal number. A finite double is
`significand * 2 ^ scale`, with a sign that zero has too.
-/
namespace Wallboard

/-- The number `coefficient * 10 ^ exponent`, negated if `negative`; zero too has a sign. -/
structure Decimal where
  negative : Bool
  coefficient : Nat
  exponent : Int
  deriving DecidableEq

structure Binary64 where
  bits : UInt64
  deriving DecidableEq

namespace Binary64

def negative (double : Binary64) : Bool := decide (Nat.pow 2 63 ≤ double.bits.toNat)

/-- The bits without the sign; their order is the order of absolute values. -/
def magnitude (double : Binary64) : Nat := double.bits.toNat % Nat.pow 2 63

def infiniteMagnitude : Nat := 2047 * Nat.pow 2 52

def ofMagnitude (negative : Bool) (magnitude : Nat) : Binary64 :=
  ⟨UInt64.ofNat (magnitude + if negative then Nat.pow 2 63 else 0)⟩

def zero : Binary64 := ofMagnitude false 0

def one : Binary64 := ofMagnitude false (1023 * Nat.pow 2 52)

def infinity (negative : Bool) : Binary64 := ofMagnitude negative infiniteMagnitude

def nan : Binary64 := ofMagnitude false (infiniteMagnitude + Nat.pow 2 51)

def isFinite (double : Binary64) : Bool := decide (double.magnitude < infiniteMagnitude)

def isNan (double : Binary64) : Bool := decide (infiniteMagnitude < double.magnitude)

def isPositive (double : Binary64) : Bool :=
  !double.negative && !double.isNan && double.magnitude != 0

def exponentField (double : Binary64) : Nat := double.magnitude / Nat.pow 2 52

def significand (double : Binary64) : Nat :=
  if double.exponentField = 0 then double.magnitude
  else Nat.pow 2 52 + double.magnitude % Nat.pow 2 52

def scale (double : Binary64) : Int :=
  if double.exponentField = 0 then -1074 else (double.exponentField : Int) - 1075

/-- The largest `k` with `2 ^ k ≤ dividend / divisor`, both positive. -/
def binaryOrder (dividend divisor : Nat) : Int :=
  let guess : Int := (Nat.log2 dividend : Int) - Nat.log2 divisor
  if divisor * Nat.pow 2 guess.toNat ≤ dividend * Nat.pow 2 (-guess).toNat then guess
  else guess - 1

/-- The magnitude nearest to a positive quotient, halves to the even significand. The carry of
a significand that rounds up to the next power of two lands in the exponent field. -/
def nearestMagnitude (dividend divisor : Nat) : Nat :=
  let scale := max (-1074) (binaryOrder dividend divisor - 52)
  let significand :=
    roundedQuotient .toEven (dividend * Nat.pow 2 (-scale).toNat) (divisor * Nat.pow 2 scale.toNat)
  min infiniteMagnitude ((scale + 1074).toNat * Nat.pow 2 52 + significand)

/-- The double nearest to a decimal number. Decimals beyond the range of doubles are decided by
the place of their leading digit alone. -/
def ofDecimal (decimal : Decimal) : Binary64 :=
  let place : Int := (Integer.digits decimal.coefficient).length + decimal.exponent
  ofMagnitude decimal.negative <|
    if decimal.coefficient = 0 then 0
    else if place < -400 then 0
    else if 400 < place then infiniteMagnitude
    else
      nearestMagnitude (decimal.coefficient * Nat.pow 10 decimal.exponent.toNat)
        (Nat.pow 10 (-decimal.exponent).toNat)

def ofInt (value : Int) : Binary64 := ofDecimal ⟨decide (value < 0), value.natAbs, 0⟩

def toInt? (double : Binary64) : Option Int :=
  let dividend := double.significand * Nat.pow 2 double.scale.toNat
  let divisor := Nat.pow 2 (-double.scale).toNat
  if !double.isFinite || dividend % divisor ≠ 0 then none
  else some (if double.negative then -(dividend / divisor : Nat) else (dividend / divisor : Nat))

end Binary64
end Wallboard
