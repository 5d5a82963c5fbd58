import Wallboard.Text.Hex
import Wallboard.Text.Utf8

namespace Wallboard.Percent

def isUnreserved (char : Char) : Bool := char.isAlphanum || ['-', '.', '_', '~'].contains char

def encodeByte (byte : UInt8) : Text := '%' :: (Text.hexDigits 2 byte.toNat).map Char.toUpper

def encode (keeps : Char → Bool) (text : Text) : Text :=
  text.flatMap fun char =>
    if isUnreserved char || keeps char then [char] else (Text.utf8 [char]).flatMap encodeByte

def byte? (high low : Char) : Option UInt8 := do
  let high ← Text.hexValue? high
  let low ← Text.hexValue? low
  some (UInt8.ofNat (high * 16 + low))

/-- Decodes the percent-encoded bytes, together with the ASCII characters between them, as UTF-8.
`pending` holds the bytes of the current run in reverse order. -/
def decodeFrom (pending : List UInt8) : Text → Text
  | [] => Text.ofUtf8 pending.reverse
  | '%' :: high :: low :: rest =>
      match byte? high low with
      | some byte => decodeFrom (byte :: pending) rest
      | none => decodeFrom (UInt8.ofNat '%'.toNat :: pending) (high :: low :: rest)
  | char :: rest =>
      if char.toNat < 0x80 then decodeFrom (UInt8.ofNat char.toNat :: pending) rest
      else Text.ofUtf8 pending.reverse ++ char :: decodeFrom [] rest

def decode (text : Text) : Text := decodeFrom [] text

end Wallboard.Percent
