import Wallboard.Json.Basic

namespace Wallboard.Json

namespace Writer

def unitEscape (unit : Nat) : Text := '\\' :: 'u' :: Text.hexDigits 4 unit

def escapeChar (char : Char) : Text :=
  match char with
  | '"' => ['\\', '"']
  | '\\' => ['\\', '\\']
  | '\n' => ['\\', 'n']
  | '\r' => ['\\', 'r']
  | '\t' => ['\\', 't']
  | '\x08' => ['\\', 'b']
  | '\x0c' => ['\\', 'f']
  | _ =>
      let code := char.toNat
      if 0x20 ≤ code ∧ code ≤ 0x7e then [char]
      else if code < 0x10000 then unitEscape code
      else
        unitEscape (0xd800 + (code - 0x10000) / 0x400) ++
          unitEscape (0xdc00 + (code - 0x10000) % 0x400)

def string (value : Text) : Text := '"' :: value.flatMap escapeChar ++ ['"']

def double (value : Binary64) : Text :=
  if value.isNan then "NaN".toList
  else if value.isFinite then value.text
  else if value.negative then "-Infinity".toList
  else "Infinity".toList

def newline (level : Nat) : Text := '\n' :: List.replicate (2 * level) ' '

def block (level : Nat) (opening closing : Char) (pieces : List Text) : Text :=
  if pieces.isEmpty then [opening, closing]
  else
    opening :: newline (level + 1) ++ Text.join (',' :: newline (level + 1)) pieces ++
      newline level ++ [closing]

mutual

def value (level : Nat) : Json → Text
  | .null => "null".toList
  | .bool value => if value then "true".toList else "false".toList
  | .int value => Integer.text value
  | .double value => double value
  | .string value => string value
  | .array values => block level '[' ']' (items (level + 1) values)
  | .object entries => block level '{' '}' (members (level + 1) entries)

def items (level : Nat) : List Json → List Text
  | [] => []
  | item :: rest => value level item :: items level rest

def members (level : Nat) : List (Text × Json) → List Text
  | [] => []
  | (name, found) :: rest =>
      (string name ++ ": ".toList ++ value level found) :: members level rest

end

end Writer

def write (value : Json) : Text := Writer.value 0 value

end Wallboard.Json
