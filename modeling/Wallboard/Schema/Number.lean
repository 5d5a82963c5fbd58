import Wallboard.Number.Reading
import Wallboard.Schema.Issue

namespace Wallboard.Check

def isDoubtful (char : Char) : Bool := char == '0' || char == '_'

/-- The rest of a numeral after leading zeros, of which the last is kept where no digit follows;
underscores among the zeros go with them. -/
def afterZeros (last : Char) : Text → Option Text
  | [] => some [last]
  | char :: rest =>
      if isDoubtful char then afterZeros char rest
      else if char.isDigit then some (char :: rest)
      else if char = '.' then some (last :: char :: rest)
      else none

def withoutLeadingZeros : Text → Option Text
  | [] => none
  | char :: rest =>
      if char = '0' then afterZeros char rest
      else if char.isDigit ∨ char = '-' then some (char :: rest)
      else none

def withoutPlaces (text : Text) : Text :=
  match Text.cut '.' text with
  | (whole, some places) =>
      if !places.isEmpty && places.all (· == '0') then whole else text
  | _ => text

def doubled (mark : Char) : Text → Bool
  | first :: second :: rest => (first == mark && second == mark) || doubled mark (second :: rest)
  | _ => false

/-- The text without its underscores, if it has any and they all stand alone inside it. -/
def withoutUnderscores (text : Text) : Option Text :=
  if Text.startsWith text ['_'] || Text.endsWith text ['_'] || doubled '_' text then none
  else if text.contains '_' then some (text.filter (· != '_'))
  else none

def withoutPlus : Text → Option Text
  | '+' :: '-' :: _ => none
  | '+' :: rest => some rest
  | text => some text

def plainNumeral (text : Text) : Option Text := do
  let unsigned ← withoutPlus (Text.trim Text.isWhiteSpace text)
  let significant ← withoutLeadingZeros unsigned
  let whole := withoutPlaces significant
  some ((withoutUnderscores whole).getD whole)

def strictInteger (text : Text) : Check Int :=
  let (negative, digits) :=
    match text with
    | '-' :: rest => (true, rest)
    | _ => (false, text)
  let idle := match digits with
    | '0' :: _ :: _ => true
    | _ => false
  if digits.isEmpty || !digits.all Char.isDigit || idle then fail .intParsing
  else if Integer.digitLimit < text.length then fail .intParsingSize
  else .ok (Integer.Numeral.value ⟨negative, digits⟩)

def integerOfText (text : Text) : Check Int :=
  match strictInteger text, plainNumeral text with
  | .error [⟨.intParsing, []⟩], some plain => strictInteger plain
  | outcome, _ => outcome

/-- An integral double within a signed word of 64 bits. -/
def integerOfDouble (double : Binary64) : Check Int :=
  if !double.isFinite then fail .finiteNumber
  else
    match double.toInt? with
    | none => fail .intFromFloat
    | some value => if value.natAbs < Nat.pow 2 63 then .ok value else fail .intParsingSize

def integer : Json → Check Int
  | .int value => .ok value
  | .bool value => .ok (if value then 1 else 0)
  | .double value => integerOfDouble value
  | .string value => integerOfText value
  | _ => fail .intType

def natural (value : Json) : Check Int := do
  let found ← integer value
  if found < 0 then fail .greaterThanEqual else .ok found

def doubleOfText (text : Text) : Check Binary64 :=
  match Binary64.read? (Text.trim Text.isWhiteSpace text) with
  | some value => .ok value
  | none =>
      match (withoutUnderscores text).bind Binary64.read? with
      | some value => .ok value
      | none => fail .floatParsing

def double : Json → Check Binary64
  | .double value => .ok value
  | .int value => .ok (.ofInt value)
  | .bool value => .ok (if value then .one else .zero)
  | .string value => doubleOfText value
  | _ => fail .floatType

end Wallboard.Check
