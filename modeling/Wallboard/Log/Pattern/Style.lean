import Wallboard.Log.Pattern.Fault

namespace Wallboard.Log.Pattern

/-- The values that are still to be drawn, and the fields if values are drawn by name. -/
structure Supply where
  fields : Option (List (Text × Json))
  pending : List Json

/-- The supply of a row of arguments; a lone object with members stands for named fields. -/
def Supply.ofArguments : List Json → Supply
  | [.object (member :: members)] => ⟨some (member :: members), [.object (member :: members)]⟩
  | arguments => ⟨none, arguments⟩

def Supply.ofFields (fields : List (Text × Json)) : Supply := ⟨some fields, [.object fields]⟩

def Supply.next (supply : Supply) : Except PatternFault (Json × Supply) :=
  match supply.pending with
  | [] => .error .tooFewArguments
  | value :: rest => .ok (value, { supply with pending := rest })

def Supply.narrow (supply : Supply) (name : Text) : Except PatternFault Supply :=
  match supply.fields with
  | none => .error .fieldsWanted
  | some fields =>
      match Json.member? name fields with
      | none => .error (.missingField name)
      | some value => .ok { supply with pending := [value] }

structure Flags where
  left : Bool
  plus : Bool
  blank : Bool
  alternate : Bool
  zero : Bool
  deriving DecidableEq

def Flags.ofMarks (marks : Text) : Flags where
  left := marks.contains '-'
  plus := marks.contains '+'
  blank := marks.contains ' '
  alternate := marks.contains '#'
  zero := marks.contains '0'

def isFlag (char : Char) : Bool := ['-', '+', ' ', '#', '0'].contains char

structure Style where
  flags : Flags
  width : Nat
  places : Option Nat
  conversion : Char
  deriving DecidableEq

/-- The name up to the parenthesis that closes the `depth` open ones, and the rest. -/
def fieldName (depth : Nat) : Text → Option (Text × Text)
  | [] => none
  | ')' :: rest =>
      if depth = 1 then some ([], rest)
      else (fieldName (depth - 1) rest).map fun found => (')' :: found.1, found.2)
  | '(' :: rest => (fieldName (depth + 1) rest).map fun found => ('(' :: found.1, found.2)
  | char :: rest => (fieldName depth rest).map fun found => (char :: found.1, found.2)

/-- A number of a style: digits, or a star for one that is drawn. -/
inductive Measure
  | absent
  | written (digits : Nat)
  | drawn (value : Int)

def starValue : Json → Except PatternFault Int
  | .int value => .ok value
  | .bool value => .ok (if value then 1 else 0)
  | _ => .error .starWantsInteger

def measure (supply : Supply) (rest : Text) : Except PatternFault (Measure × Supply × Text) :=
  match rest with
  | '*' :: rest => do
      let (value, supply) ← supply.next
      .ok (.drawn (← starValue value), supply, rest)
  | _ =>
      let digits := rest.takeWhile Char.isDigit
      if digits.isEmpty then .ok (.absent, supply, rest)
      else .ok (.written (Integer.value digits), supply, rest.dropWhile Char.isDigit)

def widthLimit : Nat := Nat.pow 2 63 - 1

def placesLimit : Nat := Nat.pow 2 31 - 1

/-- The flags and the width; a negative width that is drawn aligns to the left. -/
def widthOf (flags : Flags) : Measure → Except PatternFault (Flags × Nat)
  | .absent => .ok (flags, 0)
  | .written width => if widthLimit < width then .error .widthTooBig else .ok (flags, width)
  | .drawn value =>
      if value < -widthLimit - 1 ∨ widthLimit < value then .error .widthOverflow
      else .ok (if value < 0 then { flags with left := true } else flags, value.natAbs)

def placesOf : Measure → Except PatternFault Nat
  | .absent => .ok 0
  | .written places => if placesLimit < places then .error .placesTooBig else .ok places
  | .drawn value =>
      if value < -placesLimit - 1 ∨ placesLimit < value then .error .placesOverflow
      else .ok value.toNat

def places (supply : Supply) :
    Text → Except PatternFault (Option Nat × Supply × Text)
  | '.' :: rest => do
      let (found, supply, rest) ← measure supply rest
      .ok (some (← placesOf found), supply, rest)
  | rest => .ok (none, supply, rest)

def skipSize : Text → Text
  | 'h' :: rest => rest
  | 'l' :: rest => rest
  | 'L' :: rest => rest
  | rest => rest

def style (supply : Supply) (rest : Text) : Except PatternFault (Style × Supply × Text) := do
  let flags := Flags.ofMarks (rest.takeWhile isFlag)
  let (width, supply, rest) ← measure supply (rest.dropWhile isFlag)
  let (flags, width) ← widthOf flags width
  let (places, supply, rest) ← places supply rest
  match skipSize rest with
  | [] => .error .incomplete
  | conversion :: rest => .ok ({ flags, width, places, conversion }, supply, rest)

end Wallboard.Log.Pattern
