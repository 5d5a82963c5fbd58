import Mathlib.Data.List.Chain
import Wallboard.Markup.Token

/-!
The grammar of markup. A markup is written from pieces, literal runs and tags, and may end inside a
tag that is left open. Every markup is written from pieces in one way, and scanning finds them.
-/
namespace Wallboard

structure Piece where
  kind : TokenKind
  text : Text
  deriving DecidableEq

namespace Piece

def written (piece : Piece) : Text :=
  match piece.kind with
  | .literal => piece.text
  | .tag => '<' :: piece.text ++ ['>']

def lead (piece : Piece) : Nat :=
  match piece.kind with
  | .literal => 0
  | .tag => 1

/-- A literal is not empty and opens no tag, and a tag closes only at its end. -/
def Proper (piece : Piece) : Prop :=
  match piece.kind with
  | .literal => piece.text ≠ [] ∧ '<' ∉ piece.text
  | .tag => '>' ∉ piece.text

def Apart (first second : Piece) : Prop := first.kind = .tag ∨ second.kind = .tag

end Piece

def Token.piece (token : Token) : Piece := ⟨token.kind, token.text⟩

abbrev Pieces := List Piece

namespace Pieces

def text (pieces : Pieces) : Text := pieces.flatMap Piece.written

def tokens (offset : Nat) : Pieces → List Token
  | [] => []
  | piece :: rest =>
      ⟨piece.kind, piece.text, offset + piece.lead⟩ :: tokens (offset + piece.written.length) rest

/-- The tokens of pieces, each at the end of the text written before it, or behind the `<` there. -/
structure Placed (pieces : Pieces) (tokens : List Token) : Prop where
  same : tokens.map Token.piece = pieces
  offset : ∀ before token after, tokens = before ++ token :: after →
    token.offset = (text (before.map Token.piece)).length + token.piece.lead

def ofRun (run : Text) : Pieces := if run.isEmpty then [] else [⟨.literal, run⟩]

/-- Proper pieces of which no two literals are neighbours. -/
structure Proper (pieces : Pieces) : Prop where
  each : ∀ piece ∈ pieces, piece.Proper
  apart : pieces.IsChain Piece.Apart

end Pieces

def Scan.pieces (scan : Scan) : Pieces := scan.tokens.map Token.piece

def openEnd : Option Text → Text
  | none => []
  | some body => '<' :: body

namespace Piece

theorem text_in_written (piece : Piece) :
    (piece.written.drop piece.lead).take piece.text.length = piece.text := by
  rcases piece with ⟨kind, text⟩
  cases kind with
  | literal => simp [written, lead]
  | tag => simp [written, lead]

theorem lead_le_length_written (piece : Piece) :
    piece.lead + piece.text.length ≤ piece.written.length := by
  rcases piece with ⟨kind, text⟩
  cases kind with
  | literal => simp [written, lead]
  | tag => simp [written, lead]; omega

end Piece

namespace Pieces

@[simp] theorem text_nil : text [] = [] := rfl

@[simp] theorem text_cons (piece : Piece) (rest : Pieces) :
    text (piece :: rest) = piece.written ++ text rest := rfl

theorem text_cons_literal (run : Text) (rest : Pieces) :
    text (⟨.literal, run⟩ :: rest) = run ++ text rest := rfl

theorem text_cons_tag (body : Text) (rest : Pieces) :
    text (⟨.tag, body⟩ :: rest) = '<' :: body ++ '>' :: text rest := by
  simp [Piece.written]

@[simp] theorem text_append (first second : Pieces) :
    text (first ++ second) = text first ++ text second := List.flatMap_append

@[simp] theorem text_ofRun (run : Text) : text (ofRun run) = run := by
  cases run <;> simp [ofRun, Piece.written]

theorem map_tokens (offset : Nat) (pieces : Pieces) :
    (tokens offset pieces).map Token.piece = pieces := by
  induction pieces generalizing offset with
  | nil => rfl
  | cons piece rest ih => simp [tokens, ih, Token.piece]

theorem text_of_mem_tokens (before after : Text) {pieces : Pieces} {token : Token}
    (member : token ∈ tokens before.length pieces) :
    token.text =
      ((before ++ text pieces ++ after).drop token.offset).take token.text.length := by
  induction pieces generalizing before with
  | nil => simp [tokens] at member
  | cons piece rest ih =>
      simp only [tokens, List.mem_cons] at member
      rcases member with rfl | member
      · have fits := piece.lead_le_length_written
        have found := piece.text_in_written
        simp only [text_cons, List.append_assoc, List.drop_length_add_append]
        rw [List.drop_append_of_le_length (by omega), List.take_append_of_le_length
          (by simp only [List.length_drop]; omega), found]
      · have tail : token ∈ tokens (before ++ piece.written).length rest := by
          simpa using member
        simpa using ih (before ++ piece.written) tail

theorem offset_of_tokens {offset : Nat} {pieces : Pieces} {before after : List Token}
    {token : Token} (split : tokens offset pieces = before ++ token :: after) :
    token.offset = offset + (text (before.map Token.piece)).length + token.piece.lead := by
  induction pieces generalizing offset before with
  | nil => simp [tokens] at split
  | cons piece rest ih =>
      cases before with
      | nil =>
          obtain ⟨first, _⟩ := List.cons.inj split
          simp [← first, Token.piece, Piece.lead]
      | cons first others =>
          obtain ⟨head, tail⟩ := List.cons.inj split
          have found : first.piece = piece := by rw [← head]; rfl
          rw [ih tail, List.map_cons, text_cons, found, List.length_append]
          omega

theorem placed_tokens (pieces : Pieces) : Placed pieces (tokens 0 pieces) := by
  refine ⟨map_tokens 0 pieces, ?_⟩
  intro before token after split
  rw [offset_of_tokens split, Nat.zero_add]

theorem Proper.nil : Proper [] := ⟨by simp, .nil⟩

theorem Proper.tail {piece : Piece} {rest : Pieces} (proper : Proper (piece :: rest)) :
    Proper rest :=
  ⟨fun other member => proper.each other (List.mem_cons_of_mem piece member), proper.apart.tail⟩

theorem Proper.cons_tag {body : Text} {rest : Pieces} (absent : '>' ∉ body)
    (proper : Proper rest) : Proper (⟨.tag, body⟩ :: rest) := by
  constructor
  · intro piece member
    rcases List.mem_cons.mp member with rfl | member
    · exact absent
    · exact proper.each piece member
  · exact proper.apart.cons fun next _ => Or.inl rfl

theorem Proper.ofRun_append {run : Text} {rest : Pieces} (absent : '<' ∉ run)
    (proper : Proper rest) (seam : ∀ next ∈ rest.head?, next.kind = .tag) :
    Proper (ofRun run ++ rest) := by
  cases run with
  | nil => exact proper
  | cons char run =>
      constructor
      · intro piece member
        rcases List.mem_cons.mp member with rfl | member
        · exact ⟨by simp, absent⟩
        · exact proper.each piece member
      · exact proper.apart.cons fun next member => Or.inr (seam next member)

theorem Proper.left {first second : Pieces} (proper : Proper (first ++ second)) :
    Proper first :=
  ⟨fun piece member => proper.each piece (List.mem_append_left second member),
    proper.apart.left_of_append⟩

theorem Proper.append {first second : Pieces} (left : first.Proper) (right : second.Proper)
    (seam : ∀ last ∈ first.getLast?, ∀ next ∈ second.head?, Piece.Apart last next) :
    Proper (first ++ second) := by
  constructor
  · intro piece member
    rcases List.mem_append.mp member with member | member
    · exact left.each piece member
    · exact right.each piece member
  · exact left.apart.append right.apart seam

theorem Proper.append_tag {first second : Pieces} {body : Text} (left : first.Proper)
    (absent : '>' ∉ body) (right : second.Proper) :
    Proper (first ++ ⟨.tag, body⟩ :: second) := by
  apply left.append (right.cons_tag absent)
  intro last _ next member
  have same : ⟨.tag, body⟩ = next := by simpa using member
  exact Or.inr (by rw [← same])

end Pieces
end Wallboard
