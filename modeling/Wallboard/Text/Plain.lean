import Wallboard.Text.Basic

/-!
Plain text: what is left of a text when the control sequences of terminals are taken out of it. A
sequence is an escape, an opening bracket, parameters and a final letter.
-/
namespace Wallboard.Text

def isSequenceParameter (char : Char) : Bool := char.isDigit || char == ';' || char == '?'

def afterSequence? : Text → Option Text
  | [] => none
  | char :: rest =>
      if isSequenceParameter char then afterSequence? rest
      else if char.isAlpha then some rest
      else none

theorem afterSequence?_length {text after : Text} (found : afterSequence? text = some after) :
    after.length < text.length := by
  induction text with
  | nil => simp [afterSequence?] at found
  | cons char rest ih =>
      simp only [afterSequence?] at found
      split at found
      · exact Nat.lt_succ_of_lt (ih found)
      · split at found
        · simp_all
        · simp at found

def plain : Text → Text
  | '\x1b' :: '[' :: rest =>
      match _found : afterSequence? rest with
      | some after => plain after
      | none => '\x1b' :: '[' :: plain rest
  | char :: rest => char :: plain rest
  | [] => []
termination_by text => text.length
decreasing_by
  · have shorter := afterSequence?_length _found
    simp only [List.length_cons]
    omega
  · simp only [List.length_cons]
    omega
  · simp

end Wallboard.Text
