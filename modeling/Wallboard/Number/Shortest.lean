import Wallboard.Number.Binary64

/-!
The shortest decimal that reads back as a given double, and its text. Among the decimals with the
fewest digits the nearest to the double is taken, and of two at the same distance the even one.
-/
namespace Wallboard.Binary64

/-- The largest `k` with `10 ^ k ≤ dividend / divisor`, both positive. -/
def decimalOrder (dividend divisor : Nat) : Int :=
  if divisor ≤ dividend then (Integer.digits (dividend / divisor)).length - 1
  else -((Integer.digits ((divisor - 1) / dividend)).length : Int)

/-- The reals that round to a double, in quarters of its last place: from `low` to `high`, with
the ends if `closed`, around `centre`. -/
structure Neighbourhood where
  low : Nat
  centre : Nat
  high : Nat
  closed : Bool
  scale : Int

def neighbourhood (double : Binary64) : Neighbourhood :=
  let significand := double.significand
  let below := if significand = Nat.pow 2 52 ∧ 1 < double.exponentField then 1 else 2
  { low := 4 * significand - below
    centre := 4 * significand
    high := 4 * significand + 2
    closed := significand % 2 == 0
    scale := double.scale - 2 }

def Neighbourhood.gridPoint? (around : Neighbourhood) (place : Int) : Option Nat :=
  let unit := Nat.pow 10 place.toNat * Nat.pow 2 (-around.scale).toNat
  let measure := Nat.pow 2 around.scale.toNat * Nat.pow 10 (-place).toNat
  let inside (point : Nat) : Bool :=
    if around.closed then
      around.low * measure ≤ point * unit && point * unit ≤ around.high * measure
    else around.low * measure < point * unit && point * unit < around.high * measure
  let lower := around.centre * measure / unit
  match inside lower, inside (lower + 1) with
  | true, true => some (roundedQuotient .toEven (around.centre * measure) unit)
  | true, false => some lower
  | false, true => some (lower + 1)
  | false, false => none

/-- The shortest decimal that reads back as a finite double; seventeen digits always suffice. -/
def shortest (double : Binary64) : Decimal :=
  let around := double.neighbourhood
  let order :=
    decimalOrder (around.centre * Nat.pow 2 around.scale.toNat) (Nat.pow 2 (-around.scale).toNat)
  let attempt (length : Nat) : Option Decimal :=
    (around.gridPoint? (order - length)).map (⟨double.negative, ·, order - length⟩)
  if double.significand = 0 then ⟨double.negative, 0, 0⟩
  else ((List.range 17).findSome? attempt).getD ⟨double.negative, 0, 0⟩

def signed (negative : Bool) (text : Text) : Text := if negative then '-' :: text else text

def exponentText (order : Int) : Text :=
  let digits := Integer.digits order.natAbs
  'e' :: (if order < 0 then '-' else '+') :: (if digits.length < 2 then '0' :: digits else digits)

/-- The digits with a point after the digit of order zero, and at least one digit on each side;
orders below -4 or above 15 are written with an exponent. -/
def layout (digits : Text) (order : Int) : Text :=
  if order < -4 ∨ 16 ≤ order then
    match digits with
    | [] => []
    | [digit] => digit :: exponentText order
    | digit :: rest => digit :: '.' :: rest ++ exponentText order
  else if order < 0 then
    '0' :: '.' :: List.replicate (-order - 1).toNat '0' ++ digits
  else
    let whole := order.toNat + 1
    digits.take whole ++ List.replicate (whole - digits.length) '0' ++
      '.' :: (if digits.length ≤ whole then ['0'] else digits.drop whole)

def text (double : Binary64) : Text :=
  if double.isNan then "nan".toList
  else if !double.isFinite then signed double.negative "inf".toList
  else
    let decimal := double.shortest
    let digits := Integer.digits decimal.coefficient
    if decimal.coefficient = 0 then signed double.negative "0.0".toList
    else
      signed double.negative
        (layout (Text.dropTrailing '0' digits) (digits.length - 1 + decimal.exponent))

example : (ofDecimal ⟨false, 1, -1⟩).text = "0.1".toList := by decide +kernel

example : (ofDecimal ⟨true, 112589990684262425, -2⟩).text = "-1125899906842624.2".toList := by
  decide +kernel

example : (ofMagnitude false 1).text = "5e-324".toList := by decide +kernel

end Wallboard.Binary64
