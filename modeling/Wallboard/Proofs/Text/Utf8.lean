import Wallboard.Proofs.Json.Escape
import Wallboard.Text.Utf8

/-!
UTF-8 read back. A character is found again wherever its bytes stand, whatever stands before and
after them, since no character starts with a byte that continues one.
-/
namespace Wallboard.Text

def Continues (byte : UInt8) : Prop := 0x80 ≤ byte.toNat ∧ byte.toNat ≤ 0xbf

variable {byte : UInt8} {rest : List UInt8} {lead : Utf8Lead}

theorem utf8Lead?_range {code : Nat} (found : utf8Lead? code = some lead) :
    0x80 ≤ lead.low ∧ lead.high ≤ 0xbf := by
  unfold utf8Lead? at found
  repeat' split at found
  all_goals cases found
  all_goals exact ⟨by simp, by simp⟩

theorem ofUtf8_ascii (small : byte.toNat < 0x80) (rest : List UInt8) :
    ofUtf8 (byte :: rest) = Char.ofNat byte.toNat :: ofUtf8 rest := by
  rw [ofUtf8, if_pos small]

theorem ofUtf8_stray (large : ¬ byte.toNat < 0x80) (stray : utf8Lead? byte.toNat = none)
    (rest : List UInt8) : ofUtf8 (byte :: rest) = replacement :: ofUtf8 rest := by
  rw [ofUtf8, if_neg large]
  simp only [stray]

theorem ofUtf8_lead (large : ¬ byte.toNat < 0x80) (found : utf8Lead? byte.toNat = some lead)
    (rest : List UInt8) :
    let read := utf8Following lead.low lead.high lead.bits lead.following rest
    ofUtf8 (byte :: rest) = (read.1.map Char.ofNat).getD replacement :: ofUtf8 read.2 := by
  rw [ofUtf8, if_neg large]
  simp only [found]

theorem utf8Following_append {low high : Nat} (above : 0x80 ≤ low) (below : high ≤ 0xbf)
    (starts : ¬ Continues byte) (code following : Nat) (bytes rest : List UInt8) :
    utf8Following low high code following (bytes ++ byte :: rest) =
      ((utf8Following low high code following bytes).1,
        (utf8Following low high code following bytes).2 ++ byte :: rest) := by
  induction following generalizing low high code bytes with
  | zero => rfl
  | succ following ih =>
      cases bytes with
      | nil =>
          have outside : ¬ (low ≤ byte.toNat ∧ byte.toNat ≤ high) := by
            rintro ⟨low, high⟩
            exact starts ⟨by omega, by omega⟩
          simp [utf8Following, outside]
      | cons head tail =>
          simp only [List.cons_append, utf8Following]
          split
          · exact ih (Nat.le_refl 0x80) (Nat.le_refl 0xbf) _ tail
          · rfl

theorem ofUtf8_append (starts : ¬ Continues byte) (bytes rest : List UInt8) :
    ofUtf8 (bytes ++ byte :: rest) = ofUtf8 bytes ++ ofUtf8 (byte :: rest) := by
  induction bytes using ofUtf8.induct with
  | case1 => rw [ofUtf8, List.nil_append, List.nil_append]
  | case2 head tail small ih =>
      rw [List.cons_append, ofUtf8_ascii small, ofUtf8_ascii small, ih, List.cons_append]
  | case3 head tail large stray ih =>
      rw [List.cons_append, ofUtf8_stray large stray, ofUtf8_stray large stray, ih,
        List.cons_append]
  | case4 head tail large lead found _ ih =>
      obtain ⟨above, below⟩ := utf8Lead?_range found
      rw [List.cons_append, ofUtf8_lead large found, ofUtf8_lead large found,
        utf8Following_append above below starts, ih, List.cons_append]

theorem length_ofUtf8_le (bytes : List UInt8) : (ofUtf8 bytes).length ≤ bytes.length := by
  induction bytes using ofUtf8.induct with
  | case1 => simp [ofUtf8]
  | case2 head tail small ih =>
      rw [ofUtf8_ascii small]
      exact Nat.succ_le_succ ih
  | case3 head tail large stray ih =>
      rw [ofUtf8_stray large stray]
      exact Nat.succ_le_succ ih
  | case4 head tail large lead found _ ih =>
      have shorter := utf8Following_length lead.low lead.high lead.bits lead.following tail
      rw [ofUtf8_lead large found]
      exact Nat.succ_le_succ (Nat.le_trans ih shorter)

theorem utf8Following_cons {low high code following : Nat} (above : low ≤ byte.toNat)
    (below : byte.toNat ≤ high) (rest : List UInt8) :
    utf8Following low high code (following + 1) (byte :: rest) =
      utf8Following 0x80 0xbf (code * 0x40 + (byte.toNat - 0x80)) following rest := by
  simp [utf8Following, above, below]

theorem ofUtf8_of_following {code following low high bits : Nat} {bytes : List UInt8}
    (large : ¬ byte.toNat < 0x80)
    (found : utf8Lead? byte.toNat = some ⟨following, low, high, bits⟩)
    (followed : utf8Following low high bits following bytes = (some code, rest)) :
    ofUtf8 (byte :: bytes) = Char.ofNat code :: ofUtf8 rest := by
  rw [ofUtf8_lead large found, followed]
  rfl

theorem toNat_ofNat {number : Nat} (small : number < 0x100) : (UInt8.ofNat number).toNat = number :=
  UInt8.toNat_ofNat_of_lt' small

/-! The first byte of a character tells how many bytes there are, and which second bytes there
can be; the one that the character has is among them. -/

variable {code : Nat}

theorem utf8Lead?_of_two (above : 0x7f < code) (below : code ≤ 0x7ff) :
    utf8Lead? (code / 64 % 32 + 192) = some ⟨1, 0x80, 0xbf, code / 64⟩ := by
  have bits : code / 64 % 32 + 192 - 0xc0 = code / 64 := by omega
  rw [utf8Lead?, if_neg (by omega), if_pos (by omega), bits]

theorem ofUtf8_two (above : 0x7f < code) (below : code ≤ 0x7ff) (rest : List UInt8) :
    ofUtf8 (UInt8.ofNat (code / 64 % 32 + 192) :: UInt8.ofNat (code % 64 + 128) :: rest) =
      Char.ofNat code :: ofUtf8 rest := by
  have first := toNat_ofNat (by omega : code / 64 % 32 + 192 < 0x100)
  have second := toNat_ofNat (by omega : code % 64 + 128 < 0x100)
  have bits : code / 64 * 0x40 + (code % 64 + 128 - 0x80) = code := by omega
  have lead := utf8Lead?_of_two above below
  rw [← first] at lead
  apply ofUtf8_of_following (by omega) lead
  rw [utf8Following_cons (by omega) (by omega), utf8Following, second, bits]

theorem utf8Lead?_of_three (above : 0x7ff < code) (below : code ≤ 0xffff)
    (valid : code < 0xd800 ∨ 0xdfff < code) :
    ∃ low high, utf8Lead? (code / 4096 % 16 + 224) = some ⟨2, low, high, code / 4096⟩ ∧
      low ≤ code / 64 % 64 + 128 ∧ code / 64 % 64 + 128 ≤ high := by
  unfold utf8Lead?
  rw [if_neg (by omega), if_neg (by omega)]
  by_cases first : code / 4096 % 16 + 224 = 0xe0
  · have bits : code / 4096 = 0 := by omega
    rw [if_pos first, bits]
    exact ⟨0xa0, 0xbf, rfl, by omega, by omega⟩
  rw [if_neg first]
  -- After this byte, a second byte above 0x9f would make a surrogate.
  by_cases surrogates : code / 4096 % 16 + 224 = 0xed
  · have bits : code / 4096 = 0xd := by omega
    rw [if_pos surrogates, bits]
    exact ⟨0x80, 0x9f, rfl, by omega, by omega⟩
  · have bits : code / 4096 % 16 + 224 - 0xe0 = code / 4096 := by omega
    rw [if_neg surrogates, if_pos (by omega), bits]
    exact ⟨0x80, 0xbf, rfl, by omega, by omega⟩

theorem ofUtf8_three (above : 0x7ff < code) (below : code ≤ 0xffff)
    (valid : code < 0xd800 ∨ 0xdfff < code) (rest : List UInt8) :
    ofUtf8 (UInt8.ofNat (code / 4096 % 16 + 224) :: UInt8.ofNat (code / 64 % 64 + 128) ::
      UInt8.ofNat (code % 64 + 128) :: rest) = Char.ofNat code :: ofUtf8 rest := by
  have first := toNat_ofNat (by omega : code / 4096 % 16 + 224 < 0x100)
  have second := toNat_ofNat (by omega : code / 64 % 64 + 128 < 0x100)
  have third := toNat_ofNat (by omega : code % 64 + 128 < 0x100)
  have bits : (code / 4096 * 0x40 + (code / 64 % 64 + 128 - 0x80)) * 0x40 +
      (code % 64 + 128 - 0x80) = code := by omega
  obtain ⟨low, high, lead, least, most⟩ := utf8Lead?_of_three above below valid
  rw [← first] at lead
  rw [← second] at least most
  apply ofUtf8_of_following (by omega) lead
  rw [utf8Following_cons least most, utf8Following_cons (by omega) (by omega), utf8Following,
    second, third, bits]

theorem utf8Lead?_of_four (above : 0xffff < code) (below : code < 0x110000) :
    ∃ low high, utf8Lead? (code / 262144 % 8 + 240) = some ⟨3, low, high, code / 262144⟩ ∧
      low ≤ code / 4096 % 64 + 128 ∧ code / 4096 % 64 + 128 ≤ high := by
  unfold utf8Lead?
  rw [if_neg (by omega), if_neg (by omega), if_neg (by omega), if_neg (by omega),
    if_neg (by omega)]
  by_cases first : code / 262144 % 8 + 240 = 0xf0
  · have bits : code / 262144 = 0 := by omega
    rw [if_pos first, bits]
    exact ⟨0x90, 0xbf, rfl, by omega, by omega⟩
  rw [if_neg first]
  by_cases between : code / 262144 % 8 + 240 < 0xf4
  · have bits : code / 262144 % 8 + 240 - 0xf0 = code / 262144 := by omega
    rw [if_pos between, bits]
    exact ⟨0x80, 0xbf, rfl, by omega, by omega⟩
  · have bits : code / 262144 = 4 := by omega
    rw [if_neg between, if_pos (by omega), bits]
    exact ⟨0x80, 0x8f, rfl, by omega, by omega⟩

theorem ofUtf8_four (above : 0xffff < code) (below : code < 0x110000) (rest : List UInt8) :
    ofUtf8 (UInt8.ofNat (code / 262144 % 8 + 240) :: UInt8.ofNat (code / 4096 % 64 + 128) ::
      UInt8.ofNat (code / 64 % 64 + 128) :: UInt8.ofNat (code % 64 + 128) :: rest) =
        Char.ofNat code :: ofUtf8 rest := by
  have first := toNat_ofNat (by omega : code / 262144 % 8 + 240 < 0x100)
  have second := toNat_ofNat (by omega : code / 4096 % 64 + 128 < 0x100)
  have third := toNat_ofNat (by omega : code / 64 % 64 + 128 < 0x100)
  have fourth := toNat_ofNat (by omega : code % 64 + 128 < 0x100)
  have bits : ((code / 262144 * 0x40 + (code / 4096 % 64 + 128 - 0x80)) * 0x40 +
      (code / 64 % 64 + 128 - 0x80)) * 0x40 + (code % 64 + 128 - 0x80) = code := by omega
  obtain ⟨low, high, lead, least, most⟩ := utf8Lead?_of_four above below
  rw [← first] at lead
  rw [← second] at least most
  apply ofUtf8_of_following (by omega) lead
  rw [utf8Following_cons least most, utf8Following_cons (by omega) (by omega),
    utf8Following_cons (by omega) (by omega), utf8Following, second, third, fourth, bits]

theorem ofUtf8_utf8EncodeChar (char : Char) (rest : List UInt8) :
    ofUtf8 (String.utf8EncodeChar char ++ rest) = char :: ofUtf8 rest := by
  have valid := code_valid char
  obtain ⟨code, own⟩ : ∃ code, code = char.toNat := ⟨_, rfl⟩
  have written : char.val.toNat = code := own.symm
  have whole : char = Char.ofNat code := by rw [own, Char.ofNat_toNat]
  rw [← own] at valid
  simp only [String.utf8EncodeChar, written]
  rw [whole]
  split
  · have byte := toNat_ofNat (by omega : code < 0x100)
    rw [List.singleton_append, ofUtf8_ascii (by omega), byte]
  split
  · exact ofUtf8_two (by omega) (by omega) rest
  split
  · exact ofUtf8_three (by omega) (by omega) (by omega) rest
  · exact ofUtf8_four (by omega) (by omega) rest

theorem utf8EncodeChar_starts (char : Char) :
    ∃ first later, String.utf8EncodeChar char = first :: later ∧ ¬ Continues first := by
  have valid := code_valid char
  obtain ⟨code, own⟩ : ∃ code, char.val.toNat = code := ⟨_, rfl⟩
  have same : char.toNat = code := own
  simp only [String.utf8EncodeChar, own, Continues]
  split
  · exact ⟨_, _, rfl, by rw [toNat_ofNat] <;> omega⟩
  split
  · exact ⟨_, _, rfl, by rw [toNat_ofNat] <;> omega⟩
  split
  · exact ⟨_, _, rfl, by rw [toNat_ofNat] <;> omega⟩
  · exact ⟨_, _, rfl, by rw [toNat_ofNat] <;> omega⟩

theorem ofUtf8_around (before : List UInt8) (char : Char) (rest : List UInt8) :
    ofUtf8 (before ++ String.utf8EncodeChar char ++ rest) =
      ofUtf8 before ++ char :: ofUtf8 rest := by
  have found := ofUtf8_utf8EncodeChar char rest
  obtain ⟨first, later, written, starts⟩ := utf8EncodeChar_starts char
  rw [written, List.cons_append] at found
  rw [written, List.append_assoc, List.cons_append, ofUtf8_append starts, found]

end Wallboard.Text
