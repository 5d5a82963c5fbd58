import Mathlib.Data.List.TakeWhile
import Wallboard.Json.Reader
import Wallboard.Proofs.Attempt
import Wallboard.Proofs.Number.Decimal

namespace Wallboard.Json

open Integer

theorem isPrintable_int {value : Int} : isPrintable (.int value) = true ↔ WithinLimit value := by
  simp [isPrintable, print?, WithinLimit]

theorem isPrintable_of_mem {members : List (Text × Json)} {entry : Text × Json}
    (printable : areMembersPrintable members = true) (member : entry ∈ members) :
    entry.2.isPrintable = true := by
  induction members with
  | nil => cases member
  | cons first rest ih =>
      rw [areMembersPrintable, Bool.and_eq_true] at printable
      rcases List.mem_cons.mp member with rfl | member
      · exact printable.1
      · exact ih printable.2 member

namespace Reader

variable {admits : Numeral → Bool} {fuel : Nat} {input rest whole : Text} {found : Json}

theorem whole?_numeric (read : whole? input = some (whole, rest)) :
    whole ≠ [] ∧ ∀ char ∈ whole, char.isDigit = true := by
  unfold whole? at read
  split at read
  · obtain ⟨rfl, -⟩ := Prod.mk.inj (Option.some.inj read)
    exact ⟨List.cons_ne_nil _ _, List.forall_mem_singleton.mpr rfl⟩
  · split at read
    rename_i digits after parted
    obtain ⟨rfl, rfl⟩ := Prod.mk.inj parted
    split at read
    · cases read
    · rename_i filled
      obtain ⟨rfl, -⟩ := Prod.mk.inj (Option.some.inj read)
      refine ⟨fun none => filled (List.isEmpty_iff.mpr none), ?_⟩
      intro char member
      exact List.mem_takeWhile_imp member

theorem isPrintable_constant (read : constant? input = some (found, rest)) :
    found.isPrintable = true := by
  obtain ⟨entry, first, same⟩ := Option.map_eq_some_iff.mp read
  obtain ⟨rfl, -⟩ := Prod.mk.inj same
  have each : ∀ entry ∈ constants, entry.2.isPrintable = true := by decide
  exact each entry (List.mem_of_find?_eq_some first)

/-- A reader that takes no overlong numeral. -/
def Short (admits : Numeral → Bool) : Prop :=
  ∀ numeral, admits numeral = true → numeral.digits.length ≤ digitLimit

theorem isPrintable_number (short : Short admits) (read : number admits input = .ok (found, rest)) :
    found.isPrintable = true := by
  unfold number at read
  split at read
  rename_i negative unsigned _
  dsimp only at read
  split at read
  · cases read
  · rename_i whole afterWhole wholeRead
    split at read
    · split at read
      · rename_i admitted
        obtain ⟨rfl, -⟩ := Prod.mk.inj (Except.ok.inj read)
        obtain ⟨filled, numeric⟩ := whole?_numeric wholeRead
        exact isPrintable_int.mpr (Numeral.withinLimit filled numeric (short _ admitted))
      · cases read
    · obtain ⟨rfl, -⟩ := Prod.mk.inj (Except.ok.inj read)
      rfl

mutual

theorem isPrintable_value (short : Short admits) :
    ∀ {fuel : Nat} {input rest : Text} {found : Json},
      value admits fuel input = .ok (found, rest) → found.isPrintable = true
  | 0, _, _, _, read => by cases read
  | fuel + 1, input, rest, found, read => by
      rw [value.eq_def] at read
      dsimp only at read
      split at read
      · obtain ⟨_, _, same⟩ := bind_eq_ok_iff.mp read
        obtain ⟨rfl, -⟩ := Prod.mk.inj (Except.ok.inj same)
        rfl
      · split at read
        · obtain ⟨rfl, -⟩ := Prod.mk.inj (Except.ok.inj read)
          rfl
        · obtain ⟨_, inner, same⟩ := bind_eq_ok_iff.mp read
          obtain ⟨rfl, -⟩ := Prod.mk.inj (Except.ok.inj same)
          exact isPrintable_members short inner
      · split at read
        · obtain ⟨rfl, -⟩ := Prod.mk.inj (Except.ok.inj read)
          rfl
        · obtain ⟨_, inner, same⟩ := bind_eq_ok_iff.mp read
          obtain ⟨rfl, -⟩ := Prod.mk.inj (Except.ok.inj same)
          exact isPrintable_items short inner
      · split at read
        · rename_i constant
          obtain rfl := Except.ok.inj read
          exact isPrintable_constant constant
        · exact isPrintable_number short read

theorem isPrintable_items (short : Short admits) :
    ∀ {fuel : Nat} {input rest : Text} {found : List Json},
      items admits fuel input = .ok (found, rest) → areItemsPrintable found = true
  | 0, _, _, _, read => by cases read
  | fuel + 1, input, rest, found, read => by
      rw [items] at read
      obtain ⟨⟨item, after⟩, first, next⟩ := bind_eq_ok_iff.mp read
      have head := isPrintable_value short first
      dsimp only at next
      split at next
      · obtain ⟨rfl, -⟩ := Prod.mk.inj (Except.ok.inj next)
        simp [areItemsPrintable, head]
      · obtain ⟨_, others, same⟩ := bind_eq_ok_iff.mp next
        obtain ⟨rfl, -⟩ := Prod.mk.inj (Except.ok.inj same)
        simp [areItemsPrintable, head, isPrintable_items short others]
      · cases next

theorem isPrintable_members (short : Short admits) :
    ∀ {fuel : Nat} {input rest : Text} {found : List (Text × Json)},
      members admits fuel input = .ok (found, rest) → areMembersPrintable found = true
  | 0, _, _, _, read => by cases read
  | fuel + 1, input, rest, found, read => by
      rw [members.eq_def] at read
      dsimp only at read
      split at read
      · obtain ⟨⟨name, afterName⟩, _, next⟩ := bind_eq_ok_iff.mp read
        dsimp only at next
        split at next
        · obtain ⟨⟨shown, after⟩, first, next⟩ := bind_eq_ok_iff.mp next
          have head := isPrintable_value short first
          dsimp only at next
          split at next
          · obtain ⟨rfl, -⟩ := Prod.mk.inj (Except.ok.inj next)
            simp [areMembersPrintable, head]
          · obtain ⟨_, others, same⟩ := bind_eq_ok_iff.mp next
            obtain ⟨rfl, -⟩ := Prod.mk.inj (Except.ok.inj same)
            simp [areMembersPrintable, head, isPrintable_members short others]
          · cases next
        · cases next
      · cases read

end

theorem isPrintable_document (short : Short admits) (read : document admits input = .ok found) :
    found.isPrintable = true := by
  obtain ⟨⟨_, rest⟩, first, ending⟩ := bind_eq_ok_iff.mp read
  dsimp only at ending
  split at ending
  · obtain rfl := Except.ok.inj ending
    exact isPrintable_value short first
  · cases ending

end Reader
end Wallboard.Json
