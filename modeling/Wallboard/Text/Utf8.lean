import Wallboard.Text.Basic

/-!
UTF-8, written from text and read back from arbitrary bytes. What cannot be part of a character is
read as replacement characters, one for each longest run of bytes that starts a character.
-/
namespace Wallboard.Text

def utf8 (text : Text) : List UInt8 := text.flatMap String.utf8EncodeChar

/-- A byte that starts a character of several bytes: how many follow it, the range of the next
one, and the bits that the byte itself gives. -/
structure Utf8Lead where
  following : Nat
  low : Nat
  high : Nat
  bits : Nat

def utf8Lead? (byte : Nat) : Option Utf8Lead :=
  if byte < 0xc2 then none
  else if byte < 0xe0 then some ⟨1, 0x80, 0xbf, byte - 0xc0⟩
  else if byte = 0xe0 then some ⟨2, 0xa0, 0xbf, 0⟩
  else if byte = 0xed then some ⟨2, 0x80, 0x9f, 0xd⟩
  else if byte < 0xf0 then some ⟨2, 0x80, 0xbf, byte - 0xe0⟩
  else if byte = 0xf0 then some ⟨3, 0x90, 0xbf, 0⟩
  else if byte < 0xf4 then some ⟨3, 0x80, 0xbf, byte - 0xf0⟩
  else if byte = 0xf4 then some ⟨3, 0x80, 0x8f, 4⟩
  else none

def utf8Following (low high code : Nat) : Nat → List UInt8 → Option Nat × List UInt8
  | 0, bytes => (some code, bytes)
  | _ + 1, [] => (none, [])
  | following + 1, byte :: rest =>
      if low ≤ byte.toNat && byte.toNat ≤ high then
        utf8Following 0x80 0xbf (code * 0x40 + (byte.toNat - 0x80)) following rest
      else (none, byte :: rest)

theorem utf8Following_length (low high code following : Nat) (bytes : List UInt8) :
    (utf8Following low high code following bytes).2.length ≤ bytes.length := by
  induction following generalizing low high code bytes with
  | zero => simp [utf8Following]
  | succ following ih =>
      cases bytes with
      | nil => simp [utf8Following]
      | cons byte rest =>
          simp only [utf8Following]
          split
          · exact Nat.le_succ_of_le (ih _ _ _ rest)
          · simp

def replacement : Char := '\ufffd'

def ofUtf8 : List UInt8 → Text
  | [] => []
  | byte :: rest =>
      if byte.toNat < 0x80 then Char.ofNat byte.toNat :: ofUtf8 rest
      else
        match utf8Lead? byte.toNat with
        | none => replacement :: ofUtf8 rest
        | some lead =>
            let found := utf8Following lead.low lead.high lead.bits lead.following rest
            (found.1.map Char.ofNat).getD replacement :: ofUtf8 found.2
termination_by bytes => bytes.length
decreasing_by
  · simp
  · simp
  · have shorter := utf8Following_length lead.low lead.high lead.bits lead.following rest
    simp only [List.length_cons]
    omega

end Wallboard.Text
