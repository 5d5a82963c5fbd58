namespace Wallboard

abbrev Text := List Char

namespace Text

def cut (mark : Char) : Text → Text × Option Text
  | [] => ([], none)
  | head :: tail =>
      if head = mark then ([], some tail)
      else
        let (before, after) := cut mark tail
        (head :: before, after)

def splitAt (mark : Char) : Text → List Text
  | [] => [[]]
  | head :: tail =>
      if head = mark then [] :: splitAt mark tail
      else
        match splitAt mark tail with
        | [] => [[head]]
        | piece :: pieces => (head :: piece) :: pieces

def join (separator : Text) : List Text → Text
  | [] => []
  | [piece] => piece
  | piece :: pieces => piece ++ separator ++ join separator pieces

def startsWith (text lead : Text) : Bool := lead.isPrefixOf text

def endsWith (text tail : Text) : Bool := tail.isSuffixOf text

def dropTrailing (mark : Char) (text : Text) : Text :=
  (text.reverse.dropWhile (· == mark)).reverse

/-- Whether one text comes no later than another, characters compared by code point. -/
def precedes : Text → Text → Bool
  | [], _ => true
  | _ :: _, [] => false
  | first :: left, second :: right =>
      decide (first.toNat < second.toNat) || first == second && precedes left right

theorem cut_eq_self_of_not_mem {mark : Char} {text : Text} (absent : mark ∉ text) :
    cut mark text = (text, none) := by
  induction text with
  | nil => rfl
  | cons head tail ih =>
      simp only [List.mem_cons, not_or] at absent
      simp [cut, ih absent.2, Ne.symm absent.1]

theorem cut_append {mark : Char} {before : Text} (absent : mark ∉ before) (after : Text) :
    cut mark (before ++ mark :: after) = (before, some after) := by
  induction before with
  | nil => simp [cut]
  | cons head tail ih =>
      simp only [List.mem_cons, not_or] at absent
      simp [cut, ih absent.2, Ne.symm absent.1]

theorem splitAt_eq_self_of_not_mem {mark : Char} {text : Text} (absent : mark ∉ text) :
    splitAt mark text = [text] := by
  induction text with
  | nil => rfl
  | cons head tail ih =>
      simp only [List.mem_cons, not_or] at absent
      simp [splitAt, ih absent.2, Ne.symm absent.1]

theorem splitAt_ne_nil (mark : Char) (text : Text) : splitAt mark text ≠ [] := by
  cases text with
  | nil => simp [splitAt]
  | cons head tail =>
      simp only [splitAt]
      split
      · simp
      · split <;> simp

end Text
end Wallboard
