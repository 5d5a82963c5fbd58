import Wallboard.Text.Basic

namespace Wallboard.Text

def Before (left right : Text) : Prop := precedes left right = true ∧ left ≠ right

theorem precedes_cons_iff {first second : Char} {left right : Text} :
    precedes (first :: left) (second :: right) = true ↔
      first.toNat < second.toNat ∨ first = second ∧ precedes left right = true := by
  simp [precedes]

theorem precedes_total (left right : Text) :
    (precedes left right || precedes right left) = true := by
  induction left generalizing right with
  | nil => simp [precedes]
  | cons first left ih =>
      cases right with
      | nil => simp [precedes]
      | cons second right =>
          rw [Bool.or_eq_true, precedes_cons_iff, precedes_cons_iff]
          rcases Nat.lt_trichotomy first.toNat second.toNat with less | same | greater
          · exact .inl (.inl less)
          · have equal : first = second := Char.toNat_inj.mp same
            rcases Bool.or_eq_true_iff.mp (ih right) with forward | backward
            · exact .inl (.inr ⟨equal, forward⟩)
            · exact .inr (.inr ⟨equal.symm, backward⟩)
          · exact .inr (.inl greater)

theorem precedes_trans {left middle right : Text} (first : precedes left middle = true)
    (second : precedes middle right = true) : precedes left right = true := by
  induction left generalizing middle right with
  | nil => rfl
  | cons a left ih =>
      cases middle with
      | nil => cases first
      | cons b middle =>
          cases right with
          | nil => cases second
          | cons c right =>
              rw [precedes_cons_iff] at first second ⊢
              rcases first with less | ⟨rfl, first⟩
              · rcases second with more | ⟨rfl, second⟩
                · exact .inl (Nat.lt_trans less more)
                · exact .inl less
              · rcases second with more | ⟨rfl, second⟩
                · exact .inl more
                · exact .inr ⟨rfl, ih first second⟩

theorem precedes_antisymm {left right : Text} (forward : precedes left right = true)
    (backward : precedes right left = true) : left = right := by
  induction left generalizing right with
  | nil =>
      cases right with
      | nil => rfl
      | cons second right => cases backward
  | cons first left ih =>
      cases right with
      | nil => cases forward
      | cons second right =>
          rw [precedes_cons_iff] at forward backward
          rcases forward with less | ⟨rfl, forward⟩
          · rcases backward with more | ⟨rfl, _⟩
            · exact absurd more (Nat.lt_asymm less)
            · exact absurd less (Nat.lt_irrefl _)
          · rcases backward with more | ⟨_, backward⟩
            · exact absurd more (Nat.lt_irrefl _)
            · rw [ih forward backward]

end Wallboard.Text
