import Wallboard.Text.Basic

namespace Wallboard.Text

def isWhiteSpace (char : Char) : Bool :=
  let code := char.toNat
  (0x09 ≤ code && code ≤ 0x0d) || code == 0x20 || code == 0x85 || code == 0xa0 ||
    code == 0x1680 || (0x2000 ≤ code && code ≤ 0x200a) || code == 0x2028 || code == 0x2029 ||
    code == 0x202f || code == 0x205f || code == 0x3000

/-- White space and the information separators U+001C to U+001F. -/
def isBlank (char : Char) : Bool :=
  isWhiteSpace char || (0x1c ≤ char.toNat && char.toNat ≤ 0x1f)

def trim (drops : Char → Bool) (text : Text) : Text :=
  ((text.dropWhile drops).reverse.dropWhile drops).reverse

def strip (text : Text) : Text := trim isBlank text

theorem trim_eq_self {drops : Char → Bool} {text : Text}
    (kept : ∀ char ∈ text, drops char = false) : trim drops text = text := by
  have whole (run : Text) (solid : ∀ char ∈ run, drops char = false) :
      run.dropWhile drops = run := by
    cases run with
    | nil => rfl
    | cons head tail => simp [solid head List.mem_cons_self]
  have back : ∀ char ∈ text.reverse, drops char = false := by
    intro char member
    exact kept char (List.mem_reverse.mp member)
  rw [trim, whole text kept, whole text.reverse back, List.reverse_reverse]

theorem isBlank_of_isDigit {char : Char} (digit : char.isDigit = true) : isBlank char = false := by
  have bounds : 48 ≤ char.toNat ∧ char.toNat ≤ 57 := by
    simpa [Char.isDigit, Char.le_def, UInt32.le_iff_toNat_le] using digit
  simp only [isBlank, isWhiteSpace, Bool.or_eq_false_iff, Bool.and_eq_false_iff,
    decide_eq_false_iff_not, beq_eq_false_iff_ne]
  omega

end Wallboard.Text
