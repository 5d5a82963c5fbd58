import Wallboard.Log.Pattern.Style
import Wallboard.Number.Places

namespace Wallboard.Log.Pattern

def aligned (style : Style) (zeros : Bool) (sign mark body : Text) : Text :=
  let gap := style.width - (sign.length + mark.length + body.length)
  if style.flags.left then sign ++ mark ++ body ++ List.replicate gap ' '
  else if zeros && style.flags.zero then sign ++ mark ++ List.replicate gap '0' ++ body
  else List.replicate gap ' ' ++ sign ++ mark ++ body

def signOf (flags : Flags) (negative : Bool) : Text :=
  if negative then ['-'] else if flags.plus then ['+'] else if flags.blank then [' '] else []

def asciiOnly (text : Text) : Text :=
  text.flatMap fun char => if char.toNat < 0x80 then [char] else Text.hexEscape char

def textOf (conversion : Char) (value : Json) : Text :=
  if conversion = 's' then value.shown
  else if conversion = 'r' then value.shownWithin
  else asciiOnly value.shownWithin

def textual (style : Style) (value : Json) : Except PatternFault Text :=
  if !value.isPrintable then .error .unprintable
  else
    let text := textOf style.conversion value
    .ok (aligned style false [] [] ((style.places.map text.take).getD text))

def isRadix (conversion : Char) : Bool := ['o', 'x', 'X'].contains conversion

/-- The whole number of a value. Doubles lose their fraction, except where digits of another
radix are asked for. -/
def wholeNumber (conversion : Char) : Json → Except PatternFault Int
  | .int value => .ok value
  | .bool value => .ok (if value then 1 else 0)
  | .double value =>
      if isRadix conversion then .error (.integerWanted conversion (.double value))
      else if value.isNan then .error .undefinedInteger
      else if !value.isFinite then .error .infiniteInteger
      else
        let whole :=
          value.significand * Nat.pow 2 value.scale.toNat / Nat.pow 2 (-value.scale).toNat
        .ok (if value.negative then -(whole : Int) else whole)
  | found =>
      if isRadix conversion then .error (.integerWanted conversion found)
      else .error (.numberWanted conversion found)

def radixDigits (conversion : Char) (magnitude : Nat) : Text :=
  match conversion with
  | 'o' => Nat.toDigits 8 magnitude
  | 'x' => Nat.toDigits 16 magnitude
  | 'X' => (Nat.toDigits 16 magnitude).map Char.toUpper
  | _ => Integer.digits magnitude

def integral (style : Style) (value : Json) : Except PatternFault Text := do
  let number ← wholeNumber style.conversion value
  if !isRadix style.conversion && (Integer.print? number).isNone then .error .unprintable
  else
    let digits := radixDigits style.conversion number.natAbs
    let body := List.replicate (style.places.getD 0 - digits.length) '0' ++ digits
    let mark :=
      if style.flags.alternate && isRadix style.conversion then ['0', style.conversion] else []
    .ok (aligned style true (signOf style.flags (number < 0)) mark body)

def realNumber : Json → Except PatternFault Binary64
  | .double value => .ok value
  | .bool value => .ok (.ofInt (if value then 1 else 0))
  | .int value =>
      let double := Binary64.ofInt value
      if double.isFinite then .ok double else .error .doubleOverflow
  | found => .error (.realWanted found)

def realBody (style : Style) (value : Binary64) : Text :=
  let kept := style.flags.alternate
  let places := style.places.getD 6
  let body :=
    if value.isNan then "nan".toList
    else if !value.isFinite then "inf".toList
    else
      match style.conversion.toLower with
      | 'e' => value.scientific kept places
      | 'f' => value.fixed kept places
      | _ => value.general kept places
  if style.conversion.isUpper then body.map Char.toUpper else body

def real (style : Style) (value : Json) : Except PatternFault Text := do
  let number ← realNumber value
  let negative := number.negative && !number.isNan
  .ok (aligned style true (signOf style.flags negative) [] (realBody style number))

def character : Json → Except PatternFault Char
  | .string [char] => .ok char
  | .int code =>
      if code < 0 ∨ 0x110000 ≤ code then .error .characterOutOfRange
      else .ok (Char.ofNat code.toNat)
  | .bool value => .ok (if value then '\x01' else '\x00')
  | _ => .error .characterWanted

/-- The text of a drawn value. `index` is the offset of the conversion's letter. -/
def convert (style : Style) (index : Nat) (value : Json) : Except PatternFault Text :=
  if ['s', 'r', 'a'].contains style.conversion then textual style value
  else if ['d', 'i', 'u', 'o', 'x', 'X'].contains style.conversion then integral style value
  else if ['e', 'E', 'f', 'F', 'g', 'G'].contains style.conversion then real style value
  else if style.conversion = 'c' then
    (character value).map fun char => aligned style false [] [] [char]
  else .error (.unknownConversion style.conversion index)

end Wallboard.Log.Pattern
