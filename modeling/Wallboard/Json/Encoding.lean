import Wallboard.Json.Reader
import Wallboard.Text.Utf8

/-!
JSON texts as they are sent. A document starts with a byte order mark or with ASCII characters, so
that the null bytes among the first four show its encoding.
-/
namespace Wallboard.Json

inductive Encoding
  | utf8
  | utf16 (bigEndian : Bool)
  | utf32 (bigEndian : Bool)
  deriving DecidableEq

namespace Encoding

def ofBytes : List UInt8 → Encoding
  | [first, second] =>
      if first = 0 then .utf16 true else if second = 0 then .utf16 false else .utf8
  | first :: second :: third :: fourth :: _ =>
      if first = 0 then if second = 0 then .utf32 true else .utf16 true
      else if second = 0 then if third = 0 ∧ fourth = 0 then .utf32 false else .utf16 false
      else .utf8
  | _ => .utf8

def joined? (base : Nat) (bigEndian : Bool) : List Nat → Option (List Nat)
  | [] => some []
  | [_] => none
  | first :: second :: rest =>
      let number := if bigEndian then first * base + second else second * base + first
      (joined? base bigEndian rest).map (number :: ·)

def byteOrderMark : Char := '\ufeff'

def withoutMark : Text → Text
  | [] => []
  | char :: rest => if char = byteOrderMark then rest else char :: rest

/-- The text that the bytes of a text are in an encoding, or nothing if they are none in it. -/
def reinterpret? (encoding : Encoding) (text : Text) : Option Text :=
  let bytes := (Text.utf8 text).map UInt8.toNat
  match encoding with
  | .utf8 => some (withoutMark text)
  | .utf16 bigEndian => do
      let units ← joined? 0x100 bigEndian bytes
      some (Reader.joinParts (units.map Reader.Part.unit))
  | .utf32 bigEndian => do
      let units ← joined? 0x100 bigEndian bytes
      let codes ← joined? 0x10000 bigEndian units
      if codes.all (· ≤ 0x10ffff) then some (codes.map Reader.unitChar) else none

end Encoding

def sentText? (body : Text) : Option Text :=
  (Encoding.ofBytes (Text.utf8 (body.take 4))).reinterpret? body

end Wallboard.Json
