import Wallboard.Proofs.Markup.Piece

/-!
Scanning against the grammar of markup: what is scanned from a written list of pieces is that list,
and every markup is so written. Hence the tokens cover the markup up to a tag that is left open.
-/
namespace Wallboard.Scan

/-- The scan of what follows the first `offset` characters of a markup, outside of a tag. -/
def ofRest (offset : Nat) (rest : Text) : Scan := go false offset [] rest

def stop (inTag : Bool) : Char := if inTag then '>' else '<'

theorem go_skip (inTag : Bool) {run : Text} (absent : stop inTag ∉ run) (start : Nat)
    (pending rest : Text) :
    go inTag start pending (run ++ rest) = go inTag start (run.reverse ++ pending) rest := by
  induction run generalizing pending with
  | nil => rfl
  | cons char run ih =>
      simp only [List.mem_cons, not_or] at absent
      have next := ih absent.2 (char :: pending)
      cases inTag with
      | false =>
          have plain : char ≠ '<' := Ne.symm absent.1
          simpa [go, plain] using next
      | true =>
          have plain : char ≠ '>' := Ne.symm absent.1
          simpa [go, plain] using next

theorem go_flush {rest : Text} (seam : rest = [] ∨ rest.head? = some '<') (start : Nat)
    (pending : Text) :
    go false start pending rest =
      afterLiteral pending.reverse start (ofRest (start + pending.length) rest) := by
  cases rest with
  | nil => simp [ofRest, go, afterLiteral]
  | cons char rest =>
      have opens : char = '<' := by simpa using seam
      simp [ofRest, go, afterLiteral, opens]

theorem ofRest_literal {run rest : Text} (absent : '<' ∉ run)
    (seam : rest = [] ∨ rest.head? = some '<') (offset : Nat) :
    ofRest offset (run ++ rest) = afterLiteral run offset (ofRest (offset + run.length) rest) := by
  rw [ofRest, go_skip false (by simpa [stop] using absent), go_flush seam]
  simp

theorem ofRest_tag {body : Text} (absent : '>' ∉ body) (offset : Nat) (rest : Text) :
    ofRest offset ('<' :: body ++ '>' :: rest) =
      cons ⟨.tag, body, offset + 1⟩ (ofRest (offset + body.length + 2) rest) := by
  have inside : go true (offset + 1) [] (body ++ '>' :: rest) =
      go true (offset + 1) body.reverse ('>' :: rest) := by
    simpa using go_skip true (by simpa [stop] using absent) (offset + 1) [] ('>' :: rest)
  have place : offset + 1 + body.length + 1 = offset + body.length + 2 := by omega
  simp [ofRest, go, afterLiteral, inside, place]

theorem ofRest_open {body : Text} (absent : '>' ∉ body) (offset : Nat) :
    ofRest offset ('<' :: body) = ⟨[], some offset⟩ := by
  have inside : go true (offset + 1) [] body = go true (offset + 1) body.reverse [] := by
    simpa using go_skip true (by simpa [stop] using absent) (offset + 1) [] []
  simp [ofRest, go, afterLiteral, inside]

theorem ofRest_openEnd {unclosed : Option Text} (absent : ∀ body ∈ unclosed, '>' ∉ body)
    (offset : Nat) : ofRest offset (openEnd unclosed) = ⟨[], unclosed.map fun _ => offset⟩ := by
  cases unclosed with
  | none => rfl
  | some body => exact ofRest_open (absent body rfl) offset

theorem seam_after_literal {piece : Piece} {rest : Pieces} (literal : piece.kind = .literal)
    (proper : Pieces.Proper (piece :: rest)) (unclosed : Option Text) :
    Pieces.text rest ++ openEnd unclosed = [] ∨
      (Pieces.text rest ++ openEnd unclosed).head? = some '<' := by
  cases rest with
  | nil => cases unclosed <;> simp [openEnd]
  | cons next rest =>
      have apart : Piece.Apart piece next := proper.apart.rel_head? rfl
      have tagged : next.kind = .tag := by simpa [Piece.Apart, literal] using apart
      simp [Piece.written, tagged]

theorem ofRest_text {pieces : Pieces} (proper : pieces.Proper) {unclosed : Option Text}
    (absent : ∀ body ∈ unclosed, '>' ∉ body) (offset : Nat) :
    ofRest offset (pieces.text ++ openEnd unclosed) =
      ⟨pieces.tokens offset, unclosed.map fun _ => offset + pieces.text.length⟩ := by
  induction pieces generalizing offset with
  | nil => simpa [Pieces.tokens] using ofRest_openEnd absent offset
  | cons piece rest ih =>
      have tail := ih proper.tail (offset + piece.written.length)
      have head := proper.each piece List.mem_cons_self
      rcases piece with ⟨kind, text⟩
      cases kind with
      | literal =>
          have seam := seam_after_literal rfl proper unclosed
          have filled : text.isEmpty = false := by simpa using head.1
          rw [Pieces.text_cons, List.append_assoc]
          simp only [Piece.written] at tail ⊢
          rw [ofRest_literal head.2 seam, tail]
          simp [afterLiteral, filled, cons, Pieces.tokens, Piece.lead, Piece.written, Nat.add_assoc]
      | tag =>
          have shape : Pieces.text (⟨.tag, text⟩ :: rest) ++ openEnd unclosed =
              '<' :: text ++ '>' :: (Pieces.text rest ++ openEnd unclosed) := by
            simp [Piece.written]
          have place : offset + text.length + 2 =
              offset + (Piece.written ⟨.tag, text⟩).length := by
            simp [Piece.written]
            omega
          rw [shape, ofRest_tag head, place, tail]
          simp [cons, Pieces.tokens, Piece.lead, Nat.add_assoc]

@[simp] theorem pieces_mk (offset : Nat) (pieces : Pieces) (openedAt : Option Nat) :
    Scan.pieces ⟨pieces.tokens offset, openedAt⟩ = pieces := Pieces.map_tokens offset pieces

theorem ofMarkup_text {pieces : Pieces} (proper : pieces.Proper) {unclosed : Option Text}
    (absent : ∀ body ∈ unclosed, '>' ∉ body) :
    ofMarkup (pieces.text ++ openEnd unclosed) =
      ⟨pieces.tokens 0, unclosed.map fun _ => pieces.text.length⟩ := by
  simpa [ofRest, ofMarkup] using ofRest_text proper absent 0

theorem exists_pieces (markup : Text) :
    ∃ (pieces : Pieces) (unclosed : Option Text), pieces.Proper ∧
      (∀ body ∈ unclosed, '>' ∉ body) ∧ markup = pieces.text ++ openEnd unclosed := by
  induction measured : markup.length using Nat.strong_induction_on generalizing markup with
  | _ size ih =>
      by_cases opens : '<' ∈ markup
      · obtain ⟨run, rest, rfl, plain⟩ := List.eq_append_cons_of_mem opens
        by_cases closes : '>' ∈ rest
        · obtain ⟨body, after, rfl, inside⟩ := List.eq_append_cons_of_mem closes
          have shorter : after.length < size := by
            simp only [List.length_append, List.length_cons] at measured
            omega
          obtain ⟨pieces, unclosed, proper, absent, rfl⟩ := ih after.length shorter after rfl
          refine ⟨Pieces.ofRun run ++ ⟨.tag, body⟩ :: pieces, unclosed, ?_, absent, ?_⟩
          · exact Pieces.Proper.ofRun_append plain (proper.cons_tag inside) (by simp)
          · simp [Piece.written]
        · refine ⟨Pieces.ofRun run, some rest, ?_, by simpa using closes, by simp [openEnd]⟩
          simpa using Pieces.Proper.ofRun_append plain .nil (by simp)
      · refine ⟨Pieces.ofRun markup, none, ?_, by simp, by simp [openEnd]⟩
        simpa using Pieces.Proper.ofRun_append opens .nil (by simp)

/-- The tokens written one after the other give back the markup, or all of it before the `<` of a
tag that is left open. Each token is found at its offset. -/
theorem pieces_cover_markup (markup : Text) :
    (match (ofMarkup markup).openedAt with
      | none => (ofMarkup markup).pieces.text = markup
      | some offset =>
          (ofMarkup markup).pieces.text = markup.take offset ∧
            markup[offset]? = some '<' ∧ '>' ∉ markup.drop (offset + 1)) ∧
      (ofMarkup markup).pieces.Proper ∧
      ∀ token ∈ (ofMarkup markup).tokens,
        token.text = (markup.drop token.offset).take token.text.length := by
  obtain ⟨pieces, unclosed, proper, absent, rfl⟩ := exists_pieces markup
  rw [ofMarkup_text proper absent]
  refine ⟨?_, ?_, ?_⟩
  · cases unclosed with
    | none => simp [pieces_mk, openEnd]
    | some body => simpa [pieces_mk, openEnd] using absent body rfl
  · simpa [pieces_mk] using proper
  · intro token member
    exact Pieces.text_of_mem_tokens [] (openEnd unclosed) member

theorem eq_text_of_ofMarkup {markup : Text} {tokens : List Token} {openedAt : Option Nat}
    (scanned : ofMarkup markup = ⟨tokens, openedAt⟩) :
    ∃ unclosed : Option Text, (∀ body ∈ unclosed, '>' ∉ body) ∧
      unclosed.isSome = openedAt.isSome ∧
        markup = Pieces.text (tokens.map Token.piece) ++ openEnd unclosed := by
  obtain ⟨pieces, unclosed, proper, absent, rfl⟩ := exists_pieces markup
  rw [ofMarkup_text proper absent] at scanned
  obtain ⟨rfl, rfl⟩ := Scan.mk.inj scanned
  refine ⟨unclosed, absent, by simp, ?_⟩
  rw [Pieces.map_tokens]

/-- From proper pieces that are written one after the other exactly these are scanned, each at its
place, and with a tag left open behind them the same ones up to its `<`; and there is no other
markup from which they are scanned. -/
theorem scanned_iff_written {pieces : Pieces} (proper : pieces.Proper) :
    ∃ tokens, pieces.Placed tokens ∧
      (∀ markup, ofMarkup markup = ⟨tokens, none⟩ ↔ markup = pieces.text) ∧
      ∀ markup, ofMarkup markup = ⟨tokens, some pieces.text.length⟩ ↔
        ∃ body, '>' ∉ body ∧ markup = pieces.text ++ '<' :: body := by
  have placed := Pieces.placed_tokens pieces
  refine ⟨pieces.tokens 0, placed, ?_, ?_⟩
  · intro markup
    constructor
    · intro scanned
      obtain ⟨unclosed, _, closed, written⟩ := eq_text_of_ofMarkup scanned
      obtain rfl : unclosed = none := Option.isNone_iff_eq_none.mp (by simpa using closed)
      rw [written, placed.same, openEnd, List.append_nil]
    · intro written
      have scanned := @ofMarkup_text pieces proper none (by simp)
      rwa [openEnd, List.append_nil, ← written] at scanned
  · intro markup
    constructor
    · intro scanned
      obtain ⟨unclosed, absent, left, written⟩ := eq_text_of_ofMarkup scanned
      obtain ⟨body, rfl⟩ := Option.isSome_iff_exists.mp left
      exact ⟨body, absent body rfl, by rw [written, placed.same, openEnd]⟩
    · rintro ⟨body, absent, rfl⟩
      exact @ofMarkup_text pieces proper (some body) (by simpa using absent)

/-- A literal with a `>`, a tag with a `<`, one with nothing in it, and an open tag with a `<`. -/
theorem scanned_with_stray_brackets :
    let pieces : Pieces :=
      [⟨.literal, ['a', '>']⟩, ⟨.tag, ['<', 'b']⟩, ⟨.tag, []⟩, ⟨.literal, ['c']⟩]
    let tokens : List Token :=
      [⟨.literal, ['a', '>'], 0⟩, ⟨.tag, ['<', 'b'], 3⟩, ⟨.tag, [], 7⟩, ⟨.literal, ['c'], 8⟩]
    pieces.Proper ∧ pieces.Placed tokens ∧ ofMarkup "a><<b><>c".toList = ⟨tokens, none⟩ ∧
      ofMarkup "a><<b><>c<d<".toList = ⟨tokens, some 9⟩ := by
  intro pieces tokens
  have proper : pieces.Proper := by
    constructor
    · simp [pieces, Piece.Proper]
    · simp [pieces, Piece.Apart]
  have computed : ofMarkup "a><<b><>c".toList = ⟨tokens, none⟩ := by decide
  obtain ⟨found, placed, whole, opened⟩ := scanned_iff_written proper
  obtain rfl : found = tokens := by
    have scanned : ofMarkup "a><<b><>c".toList = ⟨found, none⟩ := (whole _).mpr (by decide)
    exact congrArg Scan.tokens (scanned.symm.trans computed)
  exact ⟨proper, placed, computed, (opened _).mpr ⟨['d', '<'], by decide, by decide⟩⟩

end Wallboard.Scan
