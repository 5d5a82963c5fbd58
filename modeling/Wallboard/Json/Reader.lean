import Wallboard.Json.Basic
import Wallboard.Number.Reading

/-!
Reading JSON text. The numbers `NaN`, `Infinity` and `-Infinity` are accepted beside the grammar.
A fault says how much of the text was left when it was met, from which its offset follows.
-/
namespace Wallboard.Json

inductive Fault
  | malformed (left : Nat)
  | oversized (numeral : Integer.Oversized)
  deriving DecidableEq

namespace Reader

def failAt {α : Type} (rest : Text) : Except Fault α := .error (.malformed rest.length)

def isSpace (char : Char) : Bool := char == ' ' || char == '\t' || char == '\n' || char == '\r'

def skipSpaces (input : Text) : Text := input.dropWhile isSpace

def hexUnit? (a b c d : Char) : Option Nat := do
  let a ← Text.hexValue? a
  let b ← Text.hexValue? b
  let c ← Text.hexValue? c
  let d ← Text.hexValue? d
  some (((a * 16 + b) * 16 + c) * 16 + d)

def isHighSurrogate (unit : Nat) : Bool := 0xd800 ≤ unit && unit ≤ 0xdbff

def isLowSurrogate (unit : Nat) : Bool := 0xdc00 ≤ unit && unit ≤ 0xdfff

/-- The character of one UTF-16 unit; an unpaired surrogate becomes the replacement character. -/
def unitChar (unit : Nat) : Char :=
  if isHighSurrogate unit || isLowSurrogate unit then '\ufffd' else Char.ofNat unit

def pairChar (high low : Nat) : Char :=
  Char.ofNat (0x10000 + (high - 0xd800) * 0x400 + (low - 0xdc00))

def plainEscape? : Char → Option Char
  | '"' => some '"'
  | '\\' => some '\\'
  | '/' => some '/'
  | 'b' => some '\x08'
  | 'f' => some '\x0c'
  | 'n' => some '\n'
  | 'r' => some '\r'
  | 't' => some '\t'
  | _ => none

/-- What stands for characters inside a string: a character itself or a UTF-16 unit. -/
inductive Part
  | char (char : Char)
  | unit (unit : Nat)
  deriving DecidableEq

def joinParts : List Part → Text
  | [] => []
  | .char char :: rest => char :: joinParts rest
  | .unit high :: .unit low :: rest =>
      if isHighSurrogate high && isLowSurrogate low then pairChar high low :: joinParts rest
      else unitChar high :: joinParts (.unit low :: rest)
  | .unit unit :: rest => unitChar unit :: joinParts rest

/-- The rest of a string after its opening quote. `pending` holds the parts so far in reverse
order, and `opened` is what was left at the quote. -/
def parts (opened : Nat) (pending : List Part) : Text → Except Fault (List Part × Text)
  | [] => .error (.malformed opened)
  | '"' :: rest => .ok (pending.reverse, rest)
  | '\\' :: 'u' :: a :: b :: c :: d :: rest =>
      match hexUnit? a b c d with
      | some unit =>
          if rest.isEmpty then .error (.malformed (rest.length + 5))
          else parts opened (.unit unit :: pending) rest
      | none => .error (.malformed (rest.length + 5))
  | '\\' :: 'u' :: rest => .error (.malformed (rest.length + 1))
  | '\\' :: char :: rest =>
      match plainEscape? char with
      | some plain => parts opened (.char plain :: pending) rest
      | none => .error (.malformed (rest.length + 2))
  | ['\\'] => .error (.malformed opened)
  | char :: rest =>
      if char.toNat < 0x20 then .error (.malformed (rest.length + 1))
      else parts opened (.char char :: pending) rest

def string (opened : Nat) (input : Text) : Except Fault (Text × Text) :=
  (parts opened [] input).map fun found => (joinParts found.1, found.2)

def digits (input : Text) : Text × Text :=
  (input.takeWhile Char.isDigit, input.dropWhile Char.isDigit)

/-- The whole part of a number: a zero alone, or digits that do not start with one. -/
def whole? : Text → Option (Text × Text)
  | '0' :: rest => some (['0'], rest)
  | input =>
      let (whole, rest) := digits input
      if whole.isEmpty then none else some (whole, rest)

def fraction (input : Text) : Text × Text :=
  match input with
  | '.' :: rest =>
      let (places, rest') := digits rest
      if places.isEmpty then ([], input) else (places, rest')
  | _ => ([], input)

def exponent (input : Text) : Option Int × Text :=
  match input with
  | mark :: rest =>
      if Binary64.isExponentMark mark then
        let (sign, rest) :=
          match rest with
          | '-' :: rest => (true, rest)
          | '+' :: rest => (false, rest)
          | _ => (false, rest)
        let (power, rest') := digits rest
        if power.isEmpty then (none, input)
        else (some (Integer.Numeral.value ⟨sign, power⟩), rest')
      else (none, input)
  | [] => (none, input)

/-- A number without a fraction or an exponent is an integer and subject to `admits`. -/
def number (admits : Integer.Numeral → Bool) (input : Text) : Except Fault (Json × Text) :=
  let (negative, unsigned) :=
    match input with
    | '-' :: rest => (true, rest)
    | _ => (false, input)
  match whole? unsigned with
  | none => failAt input
  | some (whole, afterWhole) =>
      let (places, afterFraction) := fraction afterWhole
      let (power, rest) := exponent afterFraction
      if places.isEmpty && power.isNone then
        let numeral : Integer.Numeral := ⟨negative, whole⟩
        if admits numeral then .ok (.int numeral.value, rest)
        else .error (.oversized ⟨whole.length⟩)
      else
        let coefficient := Integer.value (whole ++ places)
        .ok (.double (.ofDecimal ⟨negative, coefficient, power.getD 0 - places.length⟩), rest)

def constants : List (Text × Json) :=
  [("null".toList, .null), ("true".toList, .bool true), ("false".toList, .bool false),
   ("NaN".toList, .double .nan), ("Infinity".toList, .double (.infinity false)),
   ("-Infinity".toList, .double (.infinity true))]

def constant? (input : Text) : Option (Json × Text) :=
  (constants.find? fun entry => Text.startsWith input entry.1).map fun entry =>
    (entry.2, input.drop entry.1.length)

mutual

/-- One value, where no space stands before it. Every nested call is at a later character, so
that a fuel of the length of the text is never used up. -/
def value (admits : Integer.Numeral → Bool) : Nat → Text → Except Fault (Json × Text)
  | 0, input => failAt input
  | fuel + 1, input =>
      match input with
      | '"' :: rest => do
          let (text, rest) ← string input.length rest
          .ok (.string text, rest)
      | '{' :: rest =>
          match skipSpaces rest with
          | '}' :: after => .ok (.object [], after)
          | start => do
              let (members, rest) ← members admits fuel start
              .ok (.object members, rest)
      | '[' :: rest =>
          match skipSpaces rest with
          | ']' :: after => .ok (.array [], after)
          | start => do
              let (items, rest) ← items admits fuel start
              .ok (.array items, rest)
      | _ =>
          match constant? input with
          | some found => .ok found
          | none => number admits input

def items (admits : Integer.Numeral → Bool) : Nat → Text → Except Fault (List Json × Text)
  | 0, input => failAt input
  | fuel + 1, input => do
      let (item, rest) ← value admits fuel input
      match skipSpaces rest with
      | ']' :: after => .ok ([item], after)
      | ',' :: after =>
          let (others, rest) ← items admits fuel (skipSpaces after)
          .ok (item :: others, rest)
      | stop => failAt stop

def members (admits : Integer.Numeral → Bool) : Nat → Text → Except Fault (List (Text × Json) × Text)
  | 0, input => failAt input
  | fuel + 1, input => do
      match input with
      | '"' :: rest =>
          let (name, rest) ← string input.length rest
          match skipSpaces rest with
          | ':' :: after =>
              let (found, rest) ← value admits fuel (skipSpaces after)
              match skipSpaces rest with
              | '}' :: after => .ok ([(name, found)], after)
              | ',' :: after =>
                  let (others, rest) ← members admits fuel (skipSpaces after)
                  .ok ((name, found) :: others, rest)
              | stop => failAt stop
          | stop => failAt stop
      | _ => failAt input

end

def document (admits : Integer.Numeral → Bool) (input : Text) : Except Fault Json := do
  let (found, rest) ← value admits (2 * input.length + 2) (skipSpaces input)
  match skipSpaces rest with
  | [] => .ok found
  | stop => failAt stop

end Reader

def read (input : Text) : Except Fault Json := do
  let found ← Reader.document (fun numeral => numeral.digits.length ≤ Integer.digitLimit) input
  .ok found.settled

def offset (input : Text) (left : Nat) : Nat := input.length - left

end Wallboard.Json
