import Wallboard.Log.Context
import Wallboard.Log.Level
import Wallboard.Log.Pattern

/-!
Log records and their lines. A line is the text of a pattern over the fields of the record,
followed by those named values of its context that have one of the known keys.
-/
namespace Wallboard.Log

/-- A record: the message is itself a pattern if it comes with arguments. -/
structure Record where
  logger : Text
  level : Level
  message : Text
  arguments : List Json := []
  extra : List (Text × Json) := []

def Record.text (record : Record) : Except PatternFault Text :=
  if record.arguments.isEmpty then .ok record.message
  else Pattern.format (Pattern.Supply.ofArguments record.arguments) record.message

def Record.fields (record : Record) (text : Text) : List (Text × Json) :=
  [("name".toList, .string record.logger), ("msg".toList, .string record.message),
   ("levelname".toList, .string record.level.name), ("levelno".toList, .int record.level)] ++
    record.extra ++ [("message".toList, .string text)]

inductive LineFault
  | invalidPattern (pattern : Text)
  | unknownField (name : Text)
  | unfilled (fault : PatternFault)

def LineFault.message : LineFault → Text
  | invalidPattern pattern =>
      "Invalid format '".toList ++ pattern ++ "' for '%' style".toList
  | unknownField name => "Formatting field not found in record: ".toList ++ Text.quoted name
  | unfilled fault => fault.message

structure LineFormat where
  pattern : Text
  keys : List Text
  deriving DecidableEq

namespace LineFormat

def defaultPattern : Text := "%(message)s".toList

def defaultKeys : List Text :=
  ["device_id".toList, "element_kind".toList, "error".toList, "reason".toList, "offset".toList,
   "bound_count".toList, "render_ms".toList]

def isNameChar (char : Char) : Bool :=
  char.isAlphanum || char == '_' || (0x80 ≤ char.toNat && Text.isPrintable char)

def dropMeasure : Text → Text
  | '*' :: rest => rest
  | rest => rest.dropWhile Char.isDigit

def dropPlaces : Text → Text
  | '.' :: rest =>
      let after := dropMeasure rest
      if after.length = rest.length then '.' :: rest else after
  | rest => rest

def isConversion (char : Char) : Bool := "diouxefgcrsa%".toList.contains char.toLower

def isNamedConversion : Text → Bool
  | '(' :: rest =>
      let name := rest.takeWhile isNameChar
      match rest.dropWhile isNameChar with
      | ')' :: rest =>
          !name.isEmpty &&
            ((dropPlaces (dropMeasure (rest.dropWhile Pattern.isFlag))).head?.any isConversion)
      | _ => false
  | _ => false

def namesField : Text → Bool
  | [] => false
  | '%' :: rest => isNamedConversion rest || namesField rest
  | _ :: rest => namesField rest

/-- The format of a pattern that names a field; an empty pattern or no keys stand for the
defaults. -/
def ofPattern (pattern : Text) (keys : List Text) : Except LineFault LineFormat :=
  let pattern := if pattern.isEmpty then defaultPattern else pattern
  if namesField pattern then .ok ⟨pattern, if keys.isEmpty then defaultKeys else keys⟩
  else .error (.invalidPattern pattern)

def context (format : LineFormat) (fields : List (Text × Json)) : List (Text × Json) :=
  format.keys.filterMap fun key =>
    match Json.member? key fields with
    | none => none
    | some .null => none
    | some value => some (key, value)

def fieldFault : PatternFault → LineFault
  | .missingField name => .unknownField name
  | fault => .unfilled fault

def line (format : LineFormat) (record : Record) : Except LineFault Text := do
  let text ← record.text.mapError .unfilled
  let fields := record.fields text
  let line ← (Pattern.format (Pattern.Supply.ofFields fields) format.pattern).mapError fieldFault
  let context := format.context fields
  if context.all fun entry => entry.2.isPrintable then
    .ok (withContext line (context.map fun entry => (entry.1, entry.2.shown)))
  else .error (.unfilled .unprintable)

end LineFormat
end Wallboard.Log
