import Wallboard.Board.File
import Wallboard.Proofs.Keyed
import Wallboard.Proofs.Text.Order

namespace Wallboard.Panels

variable {panels others : Panels}

theorem inOrder_perm (panels : Panels) : panels.inOrder.Perm panels := List.mergeSort_perm _ _

theorem distinct_inOrder (distinct : Keyed.Distinct panels) : Keyed.Distinct panels.inOrder :=
  distinct.of_perm (inOrder_perm panels).symm

theorem find?_inOrder (distinct : Keyed.Distinct panels) (device : Text) :
    Keyed.find? device panels.inOrder = Keyed.find? device panels :=
  (distinct_inOrder distinct).find?_of_perm (inOrder_perm panels) device

theorem inOrder_pairwise (panels : Panels) :
    panels.inOrder.Pairwise fun left right => Text.precedes left.1 right.1 = true := by
  apply List.pairwise_mergeSort
  · intro left middle right
    exact Text.precedes_trans
  · intro left right
    exact Text.precedes_total left.1 right.1

theorem keys_inOrder (distinct : Keyed.Distinct panels) :
    (Keyed.keys panels.inOrder).Pairwise Text.Before := by
  have ordered : (Keyed.keys panels.inOrder).Pairwise fun left right =>
      Text.precedes left right = true := List.pairwise_map.mpr (inOrder_pairwise panels)
  exact ordered.and (distinct_inOrder distinct)

theorem inOrder_eq_of_find?_eq (distinct : Keyed.Distinct panels)
    (alsoDistinct : Keyed.Distinct others)
    (same : ∀ device, Keyed.find? device panels = Keyed.find? device others) :
    panels.inOrder = others.inOrder := by
  have perm : panels.inOrder.Perm others.inOrder :=
    (inOrder_perm panels).trans
      ((distinct.perm_of_find?_eq alsoDistinct same).trans (inOrder_perm others).symm)
  apply perm.eq_of_pairwise _ (inOrder_pairwise panels) (inOrder_pairwise others)
  rintro ⟨device, panel⟩ ⟨other, shown⟩ member otherMember forward backward
  obtain rfl : device = other := Text.precedes_antisymm forward backward
  have own := perm.mem_iff.mp member
  rw [(distinct_inOrder alsoDistinct).value_unique own otherMember]

end Wallboard.Panels
