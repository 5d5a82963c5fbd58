import Wallboard.Proofs.Text.Utf8
import Wallboard.Web.Percent

namespace Wallboard.Percent

open Text

def startsEscape : Text → Bool
  | '%' :: high :: low :: _ => (byte? high low).isSome
  | _ => false

def holdsEscape : Text → Bool
  | [] => false
  | char :: rest => startsEscape (char :: rest) || holdsEscape rest

variable {keeps : Char → Bool} {char high low : Char} {byte : UInt8} {text rest : Text}

theorem startsEscape_of_ne (plain : char ≠ '%') (rest : Text) :
    startsEscape (char :: rest) = false := by
  unfold startsEscape
  split
  · rename_i same
    exact absurd (List.cons.inj same).1 plain
  · rfl

theorem decodeFrom_escape (found : byte? high low = some byte) (pending : List UInt8)
    (rest : Text) :
    decodeFrom pending ('%' :: high :: low :: rest) = decodeFrom (byte :: pending) rest := by
  simp only [decodeFrom, found]

theorem decodeFrom_ascii (small : char.toNat < 0x80)
    (plain : startsEscape (char :: rest) = false) (pending : List UInt8) :
    decodeFrom pending (char :: rest) = decodeFrom (UInt8.ofNat char.toNat :: pending) rest := by
  rw [decodeFrom.eq_def]
  split
  · rename_i empty
    cases empty
  · rename_i high low later shape
    obtain ⟨rfl, rfl⟩ := List.cons.inj shape
    have none : byte? high low = none := by simpa [startsEscape] using plain
    simp only [none]
  · rename_i shape
    obtain ⟨rfl, rfl⟩ := List.cons.inj shape
    rw [if_pos small]

theorem decodeFrom_wide (wide : ¬ char.toNat < 0x80) (pending : List UInt8) (rest : Text) :
    decodeFrom pending (char :: rest) = ofUtf8 pending.reverse ++ char :: decodeFrom [] rest := by
  rw [decodeFrom.eq_def]
  split
  · rename_i empty
    cases empty
  · rename_i shape
    obtain ⟨rfl, rfl⟩ := List.cons.inj shape
    exact absurd (by decide) wide
  · rename_i shape
    obtain ⟨rfl, rfl⟩ := List.cons.inj shape
    rw [if_neg wide]

/-- A text is read escape by escape and character by character. -/
@[elab_as_elim]
theorem reading_induct {motive : Text → Prop} (nil : motive [])
    (escape : ∀ high low byte rest, byte? high low = some byte → motive rest →
      motive ('%' :: high :: low :: rest))
    (ascii : ∀ char rest, char.toNat < 0x80 → startsEscape (char :: rest) = false →
      motive rest → motive (char :: rest))
    (wide : ∀ char rest, ¬ char.toNat < 0x80 → motive rest → motive (char :: rest))
    (text : Text) : motive text := by
  induction ([] : List UInt8), text using decodeFrom.induct with
  | case1 => exact nil
  | case2 pending high low rest byte found ih => exact escape high low byte rest found ih
  | case3 pending high low rest none ih =>
      exact ascii '%' _ (by decide) (by simp [startsEscape, none]) ih
  | case4 pending char rest other small ih =>
      have plain : startsEscape (char :: rest) = false := by
        unfold startsEscape
        split
        · rename_i high low later shape
          obtain ⟨rfl, rfl⟩ := List.cons.inj shape
          exact absurd rfl (other high low later rfl)
        · rfl
      exact ascii char rest small plain ih
  | case5 pending char rest other large ih => exact wide char rest large ih

theorem length_decodeFrom_le (pending : List UInt8) (text : Text) :
    (decodeFrom pending text).length + (holdsEscape text).toNat ≤ pending.length + text.length := by
  induction text using reading_induct generalizing pending with
  | nil => simpa [decodeFrom, holdsEscape] using length_ofUtf8_le pending.reverse
  | escape high low byte rest found ih =>
      have later := ih (byte :: pending)
      have once := Bool.toNat_le (holdsEscape ('%' :: high :: low :: rest))
      rw [decodeFrom_escape found]
      simp only [List.length_cons] at later ⊢
      omega
  | ascii char rest small plain ih =>
      have later := ih (UInt8.ofNat char.toNat :: pending)
      rw [decodeFrom_ascii small plain, holdsEscape, plain, Bool.false_or]
      simp only [List.length_cons] at later ⊢
      omega
  | wide char rest large ih =>
      have plain : startsEscape (char :: rest) = false := by
        apply startsEscape_of_ne
        rintro rfl
        exact large (by decide)
      have before := length_ofUtf8_le pending.reverse
      have later := ih []
      rw [decodeFrom_wide large, holdsEscape, plain, Bool.false_or]
      simp only [List.length_append, List.length_cons, List.length_nil, List.length_reverse]
        at before later ⊢
      omega

theorem decodeFrom_of_unescaped (unescaped : holdsEscape text = false) (pending : List UInt8) :
    decodeFrom pending text = ofUtf8 pending.reverse ++ text := by
  induction text using reading_induct generalizing pending with
  | nil => rw [decodeFrom, List.append_nil]
  | escape high low byte rest found _ => simp [holdsEscape, startsEscape, found] at unescaped
  | ascii char rest small plain ih =>
      rw [holdsEscape, plain, Bool.false_or] at unescaped
      have own := toNat_ofNat (by omega : char.toNat < 0x100)
      have starts : ¬ Continues (UInt8.ofNat char.toNat) := by
        unfold Continues
        omega
      rw [decodeFrom_ascii small plain, ih unescaped, List.reverse_cons, ofUtf8_append starts,
        ofUtf8_ascii (by omega), own, Char.ofNat_toNat, ofUtf8, List.append_assoc,
        List.singleton_append]
  | wide char rest large ih =>
      rw [holdsEscape, Bool.or_eq_false_iff] at unescaped
      rw [decodeFrom_wide large, ih unescaped.2, List.reverse_nil, ofUtf8, List.nil_append]

theorem length_decode_add_le (text : Text) :
    (decode text).length + (holdsEscape text).toNat ≤ text.length := by
  have bound := length_decodeFrom_le [] text
  rwa [List.length_nil, Nat.zero_add] at bound

theorem length_decode_le (text : Text) : (decode text).length ≤ text.length :=
  Nat.le_trans (Nat.le_add_right _ _) (length_decode_add_le text)

theorem decode_of_unescaped (unescaped : holdsEscape text = false) : decode text = text := by
  rw [decode, decodeFrom_of_unescaped unescaped, List.reverse_nil, ofUtf8, List.nil_append]

theorem unescaped_of_length (kept : text.length ≤ (decode text).length) :
    holdsEscape text = false := by
  have bound := length_decode_add_le text
  cases escaped : holdsEscape text with
  | false => rfl
  | true =>
      rw [escaped, Bool.toNat_true] at bound
      omega

theorem encode_of_kept (kept : (isUnreserved char || keeps char) = true) (rest : Text) :
    encode keeps (char :: rest) = char :: encode keeps rest := by
  rw [encode, List.flatMap_cons, if_pos kept]
  rfl

theorem encode_of_not_kept (encoded : (isUnreserved char || keeps char) = false) (rest : Text) :
    encode keeps (char :: rest) =
      (String.utf8EncodeChar char).flatMap encodeByte ++ encode keeps rest := by
  have bytes : utf8 [char] = String.utf8EncodeChar char := List.flatMap_singleton _ char
  rw [encode, List.flatMap_cons, if_neg (Bool.eq_false_iff.mp encoded), bytes]
  rfl

theorem encode_append (left right : Text) :
    encode keeps (left ++ right) = encode keeps left ++ encode keeps right := by
  rw [encode, List.flatMap_append]
  rfl

theorem encode_head (keeps : Char → Bool) (char : Char) (rest : Text) :
    encode keeps (char :: rest) = char :: encode keeps rest ∨
      ∃ tail, encode keeps (char :: rest) = '%' :: tail := by
  cases kept : isUnreserved char || keeps char with
  | true => exact .inl (encode_of_kept kept rest)
  | false =>
      obtain ⟨first, later, written, _⟩ := utf8EncodeChar_starts char
      right
      rw [encode_of_not_kept kept, written, List.flatMap_cons]
      exact ⟨_, rfl⟩

theorem encode_of_unreserved (plain : ∀ char ∈ text, isUnreserved char = true) :
    encode keeps text = text := by
  induction text with
  | nil => rfl
  | cons char rest ih =>
      have kept : (isUnreserved char || keeps char) = true := by
        rw [plain char List.mem_cons_self, Bool.true_or]
      have later : encode keeps rest = rest :=
        ih fun other member => plain other (List.mem_cons_of_mem char member)
      rw [encode_of_kept kept, later]

theorem encode_eq_iff {word : Text} (plain : ∀ char ∈ word, isUnreserved char = true) :
    encode keeps text = word ↔ text = word := by
  constructor
  · intro same
    induction text generalizing word with
    | nil => exact same
    | cons char rest ih =>
        rcases encode_head keeps char rest with shape | ⟨tail, shape⟩
        · rw [shape] at same
          subst same
          have later := ih (fun other member => plain other (List.mem_cons_of_mem char member)) rfl
          rw [← later]
        · rw [shape] at same
          subst same
          exact absurd (plain '%' List.mem_cons_self) (by decide)
  · rintro rfl
    exact encode_of_unreserved plain

theorem hexValue?_upper : ∀ digit < 16, hexValue? (Nat.digitChar digit).toUpper = some digit := by
  decide

theorem encodeByte_eq (byte : UInt8) :
    ∃ high low, encodeByte byte = ['%', high, low] ∧
      hexValue? high = some (byte.toNat / 16) ∧ hexValue? low = some (byte.toNat % 16) := by
  have small := byte.toNat_lt
  refine ⟨(Nat.digitChar (byte.toNat / 16)).toUpper, (Nat.digitChar (byte.toNat % 16)).toUpper,
    ?_, hexValue?_upper _ (by omega), hexValue?_upper _ (by omega)⟩
  rw [encodeByte, hexDigits_succ (by omega), hexDigits_one (by omega)]
  rfl

theorem ascii_of_hexValue? {number : Nat} (found : hexValue? char = some number) :
    char.toNat < 0x80 := by
  unfold hexValue? at found
  split at found
  · rename_i digit
    exact Nat.lt_of_le_of_lt digit.2 (by decide)
  split at found
  · rename_i lower
    exact Nat.lt_of_le_of_lt lower.2 (by decide)
  split at found
  · rename_i upper
    exact Nat.lt_of_le_of_lt upper.2 (by decide)
  · cases found

theorem isUnreserved_of_hexValue? {number : Nat} (found : hexValue? char = some number) :
    isUnreserved char = true := by
  have digits : ∀ code < 0x80, (hexValue? (Char.ofNat code)).isSome = true →
      isUnreserved (Char.ofNat code) = true := by
    decide
  have own := digits char.toNat (ascii_of_hexValue? found)
  rw [Char.ofNat_toNat, found] at own
  exact own rfl

/-- A reserved character other than the percent sign only comes from the text. -/
theorem mem_of_mem_encode (reserved : isUnreserved char = false) (other : char ≠ '%')
    (member : char ∈ encode keeps text) : char ∈ text := by
  obtain ⟨own, inside, written⟩ := List.mem_flatMap.mp member
  split at written
  · obtain rfl := List.mem_singleton.mp written
    exact inside
  · obtain ⟨byte, _, digit⟩ := List.mem_flatMap.mp written
    obtain ⟨high, low, shape, first, second⟩ := encodeByte_eq byte
    have digits : isUnreserved high = true ∧ isUnreserved low = true :=
      ⟨isUnreserved_of_hexValue? first, isUnreserved_of_hexValue? second⟩
    rw [shape] at digit
    simp only [List.mem_cons, List.not_mem_nil, or_false] at digit
    rcases digit with rfl | rfl | rfl
    · exact absurd rfl other
    · exact absurd reserved (by simp [digits.1])
    · exact absurd reserved (by simp [digits.2])

theorem decodeFrom_encodeByte (byte : UInt8) (pending : List UInt8) (rest : Text) :
    decodeFrom pending (encodeByte byte ++ rest) = decodeFrom (byte :: pending) rest := by
  have small := byte.toNat_lt
  have whole : byte.toNat / 16 * 16 + byte.toNat % 16 = byte.toNat := by omega
  obtain ⟨high, low, shape, first, second⟩ := encodeByte_eq byte
  have found : byte? high low = some byte := by
    rw [byte?, first, second]
    change some (UInt8.ofNat (byte.toNat / 16 * 16 + byte.toNat % 16)) = some byte
    rw [whole, UInt8.ofNat_toNat]
  rw [shape]
  exact decodeFrom_escape found pending rest

theorem decodeFrom_encodeBytes (bytes pending : List UInt8) (rest : Text) :
    decodeFrom pending (bytes.flatMap encodeByte ++ rest) =
      decodeFrom (bytes.reverse ++ pending) rest := by
  induction bytes generalizing pending with
  | nil => rfl
  | cons byte later ih =>
      rw [List.flatMap_cons, List.append_assoc, decodeFrom_encodeByte, ih, List.reverse_cons,
        List.append_assoc, List.singleton_append]

theorem decodeFrom_around (before later : List UInt8) (char : Char) (text : Text) :
    decodeFrom (later ++ (String.utf8EncodeChar char).reverse ++ before) text =
      ofUtf8 before.reverse ++ char :: decodeFrom later text := by
  have around (later : List UInt8) :
      ofUtf8 (later ++ (String.utf8EncodeChar char).reverse ++ before).reverse =
        ofUtf8 before.reverse ++ char :: ofUtf8 later.reverse := by
    simp only [List.reverse_append, List.reverse_reverse, ← List.append_assoc]
    exact ofUtf8_around before.reverse char later.reverse
  induction text using reading_induct generalizing later with
  | nil => exact around later
  | escape high low byte rest found ih =>
      rw [decodeFrom_escape found, decodeFrom_escape found, ← ih]
      rfl
  | ascii other rest small plain ih =>
      rw [decodeFrom_ascii small plain, decodeFrom_ascii small plain, ← ih]
      rfl
  | wide other rest large _ =>
      rw [decodeFrom_wide large, decodeFrom_wide large, around, List.append_assoc, List.cons_append]

theorem isUnreserved_of_byte? (found : byte? high low = some byte) :
    isUnreserved high = true ∧ isUnreserved low = true := by
  unfold byte? at found
  cases upper : hexValue? high with
  | none => simp [upper] at found
  | some number =>
      cases lower : hexValue? low with
      | none => simp [upper, lower] at found
      | some other => exact ⟨isUnreserved_of_hexValue? upper, isUnreserved_of_hexValue? lower⟩

theorem byte?_sign (char : Char) : byte? '%' char = none ∧ byte? char '%' = none := by
  have sign : hexValue? '%' = none := by decide
  constructor
  · rw [byte?, sign]
    rfl
  · rw [byte?, sign]
    cases hexValue? char <;> rfl

/-- No escape comes about through an encoding of what follows a character. -/
theorem startsEscape_of_encode (escape : startsEscape (char :: encode keeps rest) = true) :
    startsEscape (char :: rest) = true := by
  by_cases sign : char = '%'
  · subst sign
    cases rest with
    | nil => exact escape
    | cons high rest =>
        rcases encode_head keeps high rest with shape | ⟨tail, shape⟩
        · rw [shape] at escape
          cases rest with
          | nil => exact escape
          | cons low rest =>
              rcases encode_head keeps low rest with shape | ⟨tail, shape⟩
              · rwa [shape] at escape
              · rw [shape, startsEscape, (byte?_sign high).2] at escape
                cases escape
        · rw [shape] at escape
          cases tail with
          | nil => cases escape
          | cons low tail =>
              rw [startsEscape, (byte?_sign low).1] at escape
              cases escape
  · rw [startsEscape_of_ne sign] at escape
    cases escape

theorem decodeFrom_encode (sign : keeps '%' = true) (pending : List UInt8) (text : Text) :
    decodeFrom pending (encode keeps text) = decodeFrom pending text := by
  induction text using reading_induct generalizing pending with
  | nil => rfl
  | escape high low byte rest found ih =>
      obtain ⟨upper, lower⟩ := isUnreserved_of_byte? found
      rw [encode_of_kept (by rw [sign, Bool.or_true]), encode_of_kept (by rw [upper, Bool.true_or]),
        encode_of_kept (by rw [lower, Bool.true_or]), decodeFrom_escape found,
        decodeFrom_escape found, ih]
  | ascii char rest small plain ih =>
      cases kept : isUnreserved char || keeps char with
      | true =>
          have still : startsEscape (char :: encode keeps rest) = false := by
            cases escape : startsEscape (char :: encode keeps rest) with
            | false => rfl
            | true => rw [← plain, startsEscape_of_encode escape]
          rw [encode_of_kept kept, decodeFrom_ascii small still, decodeFrom_ascii small plain, ih]
      | false =>
          have single : String.utf8EncodeChar char = [UInt8.ofNat char.toNat] := by
            have ascii : char.val.toNat ≤ 127 := Nat.le_of_lt_succ small
            simp only [String.utf8EncodeChar, ascii, if_true]
            rfl
          rw [encode_of_not_kept kept, decodeFrom_encodeBytes, ih, single,
            decodeFrom_ascii small plain]
          rfl
  | wide char rest large ih =>
      cases kept : isUnreserved char || keeps char with
      | true =>
          rw [encode_of_kept kept, decodeFrom_wide large, decodeFrom_wide large, ih]
      | false =>
          rw [encode_of_not_kept kept, decodeFrom_encodeBytes, decodeFrom_wide large, ← ih]
          exact decodeFrom_around pending [] char _

theorem decode_encode (sign : keeps '%' = true) (text : Text) :
    decode (encode keeps text) = decode text :=
  decodeFrom_encode sign [] text

end Wallboard.Percent
