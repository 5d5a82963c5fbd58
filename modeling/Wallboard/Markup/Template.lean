import Wallboard.Markup.Tag
import Wallboard.Markup.Token

/-!
Templates compiled from markup. Tags are built from left to right, so that the leftmost faulty tag
decides the outcome, and a tag that is left open counts only when all others are sound.
-/
namespace Wallboard

inductive Template
  | valid (elements : List Element)
  | invalid (error : MarkupError)
  deriving DecidableEq

namespace Template

def element (token : Token) : Tag.Build Element :=
  match token.kind with
  | .literal => .ok (.literal token.text)
  | .tag => Tag.build token.text

def elements : List Token → Tag.Build (List Element)
  | [] => .ok []
  | token :: rest => do
      let head ← element token
      let tail ← elements rest
      .ok (head :: tail)

def ofScan (scan : Scan) : Except Integer.Oversized Template :=
  match elements scan.tokens with
  | .error (.oversized numeral) => .error numeral
  | .error (.rejected error) => .ok (.invalid error)
  | .ok elements =>
      match scan.openedAt with
      | some offset => .ok (.invalid (.unterminatedTag offset))
      | none => .ok (.valid elements)

def compile (markup : Text) : Except Integer.Oversized Template := ofScan (Scan.ofMarkup markup)

end Template
end Wallboard
