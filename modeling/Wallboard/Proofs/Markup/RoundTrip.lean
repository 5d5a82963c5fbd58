import Wallboard.Proofs.Markup.Canonical

namespace Wallboard

theorem Pieces.elements_eq_ok_iff {pieces : Pieces} {elements : List Element} :
    pieces.elements = .ok elements ↔
      List.Forall₂ (fun piece element => Piece.element piece = .ok element) pieces elements := by
  induction pieces generalizing elements with
  | nil => simp [Pieces.elements, eq_comm]
  | cons piece rest ih =>
      simp only [Pieces.elements_cons_eq_ok_iff, ih, List.forall₂_cons_left_iff]

namespace Template

/-- Canonical elements of which no two literals are neighbours. -/
structure Canonical (elements : List Element) : Prop where
  each : ∀ element ∈ elements, element.Canonical
  apart : elements.IsChain fun first second => first.isLiteral = false ∨ second.isLiteral = false

def markup (elements : List Element) : Text := Pieces.text (elements.map Element.piece)

theorem proper_map_piece {elements : List Element} (canonical : Canonical elements) :
    Pieces.Proper (elements.map Element.piece) := by
  constructor
  · intro piece member
    obtain ⟨element, among, rfl⟩ := List.mem_map.mp member
    exact (canonical.each element among).read.1
  · have tagged (element : Element) (other : element.isLiteral = false) :
        element.piece.kind = .tag := by
      cases element <;> first | rfl | cases other
    rw [List.isChain_map]
    apply canonical.apart.imp
    intro first second apart
    exact apart.imp (tagged first) (tagged second)

theorem compile_of_canonical {elements : List Element} (canonical : Canonical elements) :
    compile (markup elements) = .ok (.valid elements) := by
  have built : Pieces.elements (elements.map Element.piece) = .ok elements := by
    rw [Pieces.elements_eq_ok_iff, List.forall₂_map_left_iff, List.forall₂_same]
    intro element member
    exact (canonical.each element member).read.2
  exact compile_eq_valid_iff.mpr
    ⟨elements.map Element.piece, proper_map_piece canonical, rfl, built⟩

theorem read_of_elements {pieces : Pieces} {elements : List Element}
    (proper : ∀ piece ∈ pieces, piece.Proper) (built : pieces.elements = .ok elements) :
    (∀ element ∈ elements, element.Canonical) ∧
      elements.map Element.isLiteral = pieces.map fun piece => decide (piece.kind = .literal) := by
  rw [Pieces.elements_eq_ok_iff] at built
  induction built with
  | nil => simp
  | @cons piece element rest others made built ih =>
      obtain ⟨canonical, literal⟩ :=
        Element.canonical_of_read (proper piece List.mem_cons_self) made
      obtain ⟨tail, kinds⟩ := ih fun other member =>
        proper other (List.mem_cons_of_mem piece member)
      constructor
      · exact List.forall_mem_cons.mpr ⟨canonical, tail⟩
      · rw [List.map_cons, List.map_cons, literal, kinds]

theorem canonical_of_elements {pieces : Pieces} {elements : List Element}
    (proper : pieces.Proper) (built : pieces.elements = .ok elements) : Canonical elements := by
  obtain ⟨each, kinds⟩ := read_of_elements proper.each built
  refine ⟨each, ?_⟩
  -- Which neighbours are literals is seen from the pieces as well as from the elements.
  have seen : (pieces.map fun piece => decide (piece.kind = .literal)).IsChain
      fun first second => first = false ∨ second = false := by
    rw [List.isChain_map]
    apply proper.apart.imp
    rintro ⟨first, _⟩ ⟨second, _⟩ apart
    exact apart.imp (fun tag => by simp_all) (fun tag => by simp_all)
  rwa [← kinds, List.isChain_map] at seen

theorem canonical_of_compile {source : Text} {elements : List Element}
    (valid : compile source = .ok (.valid elements)) : Canonical elements := by
  obtain ⟨pieces, proper, _, built⟩ := compile_eq_valid_iff.mp valid
  exact canonical_of_elements proper built

/-- Canonical elements, and no others, are compiled from their own markup, and all markup that
compiles gives canonical elements. -/
theorem compile_markup_iff_canonical (elements : List Element) :
    (compile (markup elements) = .ok (.valid elements) ↔ Canonical elements) ∧
      ∀ source, compile source = .ok (.valid elements) →
        Canonical elements ∧ compile (markup elements) = compile source := by
  constructor
  · exact ⟨canonical_of_compile, compile_of_canonical⟩
  · intro source valid
    have canonical := canonical_of_compile valid
    exact ⟨canonical, by rw [compile_of_canonical canonical, valid]⟩

/-- Surplus arguments, blanks, signs and leading zeros are not in the canonical markup. -/
theorem loose_markup_made_canonical :
    let source := "a>b<item: x:<\n y ,+07, Meter,surplus><gps:z><power:-5,>".toList
    let elements : List Element :=
      [.literal ['a', '>', 'b'], .itemCount "x:<\n y".toList (some 7) .millions,
        .coordinate .z none 2, .power 1 none]
    compile source = .ok (.valid elements) ∧ Canonical elements ∧
      markup elements = "a>b<item:x:<\n y,7,m><gps:Z,,2><power:1,>".toList ∧
      compile (markup elements) = compile source := by
  intro source elements
  have valid : compile source = .ok (.valid elements) := by decide +kernel
  have result := (compile_markup_iff_canonical elements).2 source valid
  exact ⟨valid, result.1, by decide +kernel, result.2⟩

end Template
end Wallboard
