import Wallboard.Text.Basic

namespace Wallboard.Text

def unifyNewlines : Text → Text
  | [] => []
  | '\r' :: '\n' :: rest => '\n' :: unifyNewlines rest
  | '\r' :: rest => '\n' :: unifyNewlines rest
  | char :: rest => char :: unifyNewlines rest

def isLineBreak (char : Char) : Bool :=
  let code := char.toNat
  (0x0a ≤ code && code ≤ 0x0d) || (0x1c ≤ code && code ≤ 0x1e) || code == 0x85 ||
    code == 0x2028 || code == 0x2029

/-- The displayed lines after `pending`, the reversed start of the current one. -/
def linesFrom (pending : Text) : Text → List Text
  | [] => if pending.isEmpty then [] else [pending.reverse]
  | '\r' :: '\n' :: rest => pending.reverse :: linesFrom [] rest
  | char :: rest =>
      if isLineBreak char then pending.reverse :: linesFrom [] rest
      else linesFrom (char :: pending) rest

/-- The displayed lines of a text; a break at the very end opens no further line. -/
def lines (text : Text) : List Text := linesFrom [] text

end Wallboard.Text
