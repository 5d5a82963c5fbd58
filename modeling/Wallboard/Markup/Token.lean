import Wallboard.Text.Basic

/-!
The tokens of markup: literal runs and the bodies of tags. A tag opens with `<` and closes with
the next `>`; a `>` outside a tag and a `<` inside one are ordinary characters.
-/
namespace Wallboard

inductive TokenKind
  | literal
  | tag
  deriving DecidableEq

structure Token where
  kind : TokenKind
  text : Text
  offset : Nat
  deriving DecidableEq

/-- The tokens up to the end of the markup, or up to a tag that is left open; then `openedAt` is
the offset of its `<`. -/
structure Scan where
  tokens : List Token
  openedAt : Option Nat
  deriving DecidableEq

namespace Scan

def cons (token : Token) (scan : Scan) : Scan := ⟨token :: scan.tokens, scan.openedAt⟩

def afterLiteral (text : Text) (offset : Nat) (scan : Scan) : Scan :=
  if text.isEmpty then scan else cons ⟨.literal, text, offset⟩ scan

/-- The scan of the rest of the markup, where `pending` is the reversed text read since `start`,
inside a tag or outside of one. -/
def go (inTag : Bool) (start : Nat) (pending : Text) : Text → Scan
  | [] =>
      if inTag then ⟨[], some (start - 1)⟩ else afterLiteral pending.reverse start ⟨[], none⟩
  | char :: rest =>
      if inTag = false ∧ char = '<' then
        afterLiteral pending.reverse start (go true (start + pending.length + 1) [] rest)
      else if inTag = true ∧ char = '>' then
        cons ⟨.tag, pending.reverse, start⟩ (go false (start + pending.length + 1) [] rest)
      else go inTag start (char :: pending) rest

def ofMarkup (markup : Text) : Scan := go false 0 [] markup

end Scan
end Wallboard
