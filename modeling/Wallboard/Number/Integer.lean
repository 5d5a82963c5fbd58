import Wallboard.Text.Basic

/-!
Integers as decimal text. Their values are unbounded, but no integer of more than `digitLimit`
digits is ever written or read.
-/
namespace Wallboard.Integer

def digitLimit : Nat := 4300

def digits (value : Nat) : Text := Nat.toDigits 10 value

def text (value : Int) : Text :=
  if value < 0 then '-' :: digits value.natAbs else digits value.natAbs

def print? (value : Int) : Option Text :=
  if (digits value.natAbs).length ≤ digitLimit then some (text value) else none

def digitValue (char : Char) : Nat := char.toNat - '0'.toNat

def value (digits : Text) : Nat :=
  digits.foldl (fun total char => 10 * total + digitValue char) 0

structure Numeral where
  negative : Bool
  digits : Text
  deriving DecidableEq

namespace Numeral

def magnitude? (digits : Text) : Option Text :=
  if digits ≠ [] ∧ digits.all Char.isDigit then some digits else none

def ofText? : Text → Option Numeral
  | '-' :: rest => (magnitude? rest).map (⟨true, ·⟩)
  | '+' :: rest => (magnitude? rest).map (⟨false, ·⟩)
  | rest => (magnitude? rest).map (⟨false, ·⟩)

theorem ofText?_of_digits {digits : Text} (filled : digits ≠ [])
    (numeric : ∀ char ∈ digits, char.isDigit = true) : ofText? digits = some ⟨false, digits⟩ := by
  have read : magnitude? digits = some digits := by simpa [magnitude?, filled] using numeric
  cases digits with
  | nil => contradiction
  | cons head tail =>
      have digit := numeric head List.mem_cons_self
      have unsigned : head ≠ '-' ∧ head ≠ '+' := by
        constructor <;> rintro rfl <;> contradiction
      simp [ofText?, unsigned, read]

def value (numeral : Numeral) : Int :=
  if numeral.negative then -(Integer.value numeral.digits : Int)
  else Integer.value numeral.digits

end Numeral

structure Oversized where
  digits : Nat
  deriving DecidableEq

/-- The value of a numeral within the digit limit, leading zeros counted. -/
def read (numeral : Numeral) : Except Oversized Int :=
  if numeral.digits.length ≤ digitLimit then .ok numeral.value
  else .error ⟨numeral.digits.length⟩

def Oversized.message (fault : Oversized) : Text :=
  "Exceeds the limit (4300 digits) for integer string conversion: value has ".toList ++
    Integer.digits fault.digits ++
    " digits; use sys.set_int_max_str_digits() to increase the limit".toList

def unprintableMessage : Text :=
  ("Exceeds the limit (4300 digits) for integer string conversion; " ++
    "use sys.set_int_max_str_digits() to increase the limit").toList

end Wallboard.Integer
