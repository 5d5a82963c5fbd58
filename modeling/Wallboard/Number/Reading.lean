import Wallboard.Number.Binary64
import Wallboard.Text.Blank

/-!
Doubles read from text: a strict grammar of signed decimals and the names of the infinities and of
not-a-number, and a loose reading that also takes blanks, the decimal digits of every script and
single underscores between digits.
-/
namespace Wallboard.Binary64

structure Mantissa where
  whole : Text
  fraction : Text
  deriving DecidableEq

def mantissa? (text : Text) : Option Mantissa :=
  let (whole, after) := Text.cut '.' text
  let fraction := after.getD []
  if (whole ++ fraction).all Char.isDigit && !(whole ++ fraction).isEmpty then
    some ⟨whole, fraction⟩
  else none

def exponent? (text : Text) : Option Int := (Integer.Numeral.ofText? text).map (·.value)

def isExponentMark (char : Char) : Bool := char == 'e' || char == 'E'

def unsigned? (text : Text) : Option Decimal := do
  let mantissa ← mantissa? (text.takeWhile fun char => !isExponentMark char)
  let exponent ←
    match text.dropWhile fun char => !isExponentMark char with
    | [] => some 0
    | _ :: digits => exponent? digits
  some ⟨false, Integer.value (mantissa.whole ++ mantissa.fraction),
    exponent - mantissa.fraction.length⟩

def magnitudeNamed? (text : Text) : Option Binary64 :=
  let name := text.map Char.toLower
  if name = "inf".toList ∨ name = "infinity".toList then some (infinity false)
  else if name = "nan".toList then some nan
  else (unsigned? text).map ofDecimal

def negated (double : Binary64) : Binary64 := ofMagnitude (!double.negative) double.magnitude

def read? : Text → Option Binary64
  | '-' :: rest => (magnitudeNamed? rest).map negated
  | '+' :: rest => magnitudeNamed? rest
  | rest => magnitudeNamed? rest

/-- The zeros of the decimal digit runs of Unicode 14, each followed by its one to nine. -/
def scriptZeros : List Nat :=
  [0x30, 0x660, 0x6f0, 0x7c0, 0x966, 0x9e6, 0xa66, 0xae6, 0xb66, 0xbe6, 0xc66, 0xce6, 0xd66,
   0xde6, 0xe50, 0xed0, 0xf20, 0x1040, 0x1090, 0x17e0, 0x1810, 0x1946, 0x19d0, 0x1a80, 0x1a90,
   0x1b50, 0x1bb0, 0x1c40, 0x1c50, 0xa620, 0xa8d0, 0xa900, 0xa9d0, 0xa9f0, 0xaa50, 0xabf0,
   0xff10, 0x104a0, 0x10d30, 0x11066, 0x110f0, 0x11136, 0x111d0, 0x112f0, 0x11450, 0x114d0,
   0x11650, 0x116c0, 0x11730, 0x118e0, 0x11950, 0x11c50, 0x11d50, 0x11da0, 0x16a60, 0x16ac0,
   0x16b50, 0x1d7ce, 0x1d7d8, 0x1d7e2, 0x1d7ec, 0x1d7f6, 0x1e140, 0x1e2f0, 0x1e950, 0x1fbf0]
def asciiDigit (char : Char) : Char :=
  match scriptZeros.find? fun base => base ≤ char.toNat && char.toNat ≤ base + 9 with
  | some base => Char.ofNat ('0'.toNat + (char.toNat - base))
  | none => char

def joinDigits? (before : Option Char) : Text → Option Text
  | [] => some []
  | '_' :: rest =>
      match before, rest with
      | some left, right :: _ =>
          if left.isDigit && right.isDigit then joinDigits? (some '_') rest else none
      | _, _ => none
  | char :: rest => (joinDigits? (some char) rest).map (char :: ·)

def readLoose? (text : Text) : Option Binary64 :=
  (joinDigits? none (Text.strip (text.map asciiDigit))).bind read?

end Wallboard.Binary64
