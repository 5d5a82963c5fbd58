import Wallboard.Board.Basic
import Wallboard.Proofs.Keyed

namespace Wallboard

namespace Panels

/-- The panels with the texts that some of them are given, and all else as it was. -/
def withTexts (panels : Panels) (texts : List (Text × Text)) : Panels :=
  panels.map fun entry =>
    (entry.1, { entry.2 with text := (Keyed.find? entry.1 texts).getD entry.2.text })

theorem keys_withTexts (panels : Panels) (texts : List (Text × Text)) :
    Keyed.keys (panels.withTexts texts) = Keyed.keys panels :=
  Keyed.keys_map _ panels

theorem find?_withTexts (panels : Panels) (texts : List (Text × Text)) (device : Text) :
    Keyed.find? device (panels.withTexts texts) =
      (Keyed.find? device panels).map fun panel =>
        { panel with text := (Keyed.find? device texts).getD panel.text } := by
  rw [withTexts, Keyed.find?_map]

theorem withTexts_nil (panels : Panels) : panels.withTexts [] = panels := by
  simp [withTexts, Keyed.find?]

theorem distinct_withTexts {panels : Panels} (distinct : Keyed.Distinct panels)
    (texts : List (Text × Text)) : Keyed.Distinct (panels.withTexts texts) :=
  distinct.map _

theorem withTexts_withTexts (panels : Panels) (earlier later : List (Text × Text)) :
    (panels.withTexts earlier).withTexts later = panels.withTexts (later ++ earlier) := by
  simp only [withTexts, List.map_map]
  apply List.map_congr_left
  intro entry member
  cases given : Keyed.find? entry.1 later with
  | none => simp [Keyed.find?_append, given]
  | some text => simp [Keyed.find?_append, given]

theorem write?_of_mem {panels : Panels} (distinct : Keyed.Distinct panels) {device : Text}
    (known : device ∈ Keyed.keys panels) (text : Text) :
    panels.write? device text = some (panels.withTexts [(device, text)]) := by
  obtain ⟨panel, found⟩ := Keyed.mem_keys_iff.mp known
  have changed := distinct.put_eq_map found fun panel => { panel with text }
  rw [write?, found, Option.map_some, changed, withTexts]
  congr 1
  apply List.map_congr_left
  intro entry member
  by_cases same : entry.1 = device
  · simp [Keyed.find?, same]
  · simp [Keyed.find?, same, Ne.symm same]

theorem write?_of_not_mem {panels : Panels} {device : Text}
    (unknown : device ∉ Keyed.keys panels) (text : Text) : panels.write? device text = none := by
  rw [write?, Keyed.find?_eq_none_iff.mpr unknown, Option.map_none]

theorem withTexts_cons {panels : Panels} {device : Text} {texts : List (Text × Text)}
    (fresh : device ∉ Keyed.keys texts) (text : Text) :
    (panels.withTexts [(device, text)]).withTexts texts =
      panels.withTexts ((device, text) :: texts) := by
  simp only [withTexts, List.map_map]
  apply List.map_congr_left
  intro entry member
  by_cases same : device = entry.1
  · subst same
    simp [Keyed.find?, Keyed.find?_eq_none_iff.mpr fresh]
  · simp [Keyed.find?, same]

theorem withTexts_cons_of_not_mem {panels : Panels} {device : Text} (texts : List (Text × Text))
    (unknown : device ∉ Keyed.keys panels) (text : Text) :
    panels.withTexts ((device, text) :: texts) = panels.withTexts texts := by
  apply List.map_congr_left
  intro entry member
  have differ : device ≠ entry.1 := by
    rintro rfl
    exact unknown (List.mem_map.mpr ⟨entry, member, rfl⟩)
  simp [Keyed.find?, differ]

end Panels

namespace Board

variable {board : Board} {device : Text}

theorem write_of_mem (unsaved : board.path = none) (distinct : Keyed.Distinct board.panels)
    (known : device ∈ Keyed.keys board.panels) (disk : Disk) (text : Text) :
    board.write disk device text =
      ⟨.ok (), { board with panels := board.panels.withTexts [(device, text)] }, disk⟩ := by
  simp [write, Panels.write?_of_mem distinct known, commit, save, unsaved]

theorem write_of_not_mem (unknown : device ∉ Keyed.keys board.panels) (disk : Disk)
    (text : Text) :
    board.write disk device text = ⟨.error (.unknownPanel device), board, disk⟩ := by
  simp [write, Panels.write?_of_not_mem unknown]

end Board
end Wallboard
