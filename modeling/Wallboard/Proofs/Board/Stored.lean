import Wallboard.Proofs.Board.Order
import Wallboard.Proofs.Disk
import Wallboard.Proofs.Json.Document
import Wallboard.Board.Basic

namespace Wallboard

theorem Text.unifyNewlines_of_no_return {text : Text} (plain : '\r' ∉ text) :
    unifyNewlines text = text := by
  induction text with
  | nil => rfl
  | cons head tail ih =>
      simp only [List.mem_cons, not_or] at plain
      rw [unifyNewlines, ih plain.2]
      · rintro rest rfl
        exact absurd rfl plain.1
      · rintro rfl
        exact absurd rfl plain.1

theorem fileText?_fileContent (text : Text) :
    fileText? (fileContent text) = some (Text.unifyNewlines text) := by
  have decoded : String.fromUTF8? (fileContent text) = some (String.ofList text) :=
    dif_pos (String.ofList text).isValidUTF8
  rw [fileText?, decoded, Option.map_some, String.toList_ofList]

theorem Panel.ofJson_toJson (panel : Panel) : Panel.ofJson panel.toJson = .ok panel :=
  rfl

theorem Panel.isTextual_toJson (panel : Panel) : Json.IsTextual panel.toJson := by
  have names : ["custom_data".toList, "device_id".toList, "text".toList].Nodup := by decide
  exact ⟨names, trivial, trivial, trivial, trivial⟩

namespace Panels

variable {panels : Panels} {disk after : Disk} {path : Path}

theorem ofMembers_toJson (panels : Panels) :
    ofMembers (panels.map fun entry => (entry.1, entry.2.toJson)) = .ok panels := by
  induction panels with
  | nil => rfl
  | cons entry rest ih =>
      simp only [List.map_cons, ofMembers, Panel.ofJson_toJson, ih, bind, Except.bind]

theorem isTextual_document (distinct : Keyed.Distinct panels) :
    Json.IsTextual (.object (panels.map fun entry => (entry.1, entry.2.toJson))) := by
  refine ⟨distinct.map _, ?_⟩
  clear distinct
  induction panels with
  | nil => trivial
  | cons entry rest ih => exact ⟨Panel.isTextual_toJson entry.2, ih⟩

theorem ofFileText_fileText (distinct : Keyed.Distinct panels) :
    ofFileText panels.fileText = .ok panels.inOrder := by
  have textual := isTextual_document (distinct_inOrder distinct)
  simp only [ofFileText, fileText, Json.read_write textual.isPlain, ofJson, ofMembers_toJson]
  rfl

theorem load_of_read (distinct : Keyed.Distinct panels)
    (found : disk.read path = .ok (fileContent panels.fileText)) :
    load disk path = .ok panels.inOrder := by
  have plain : '\r' ∉ panels.fileText :=
    Json.Writer.return_not_mem_value (isTextual_document (distinct_inOrder distinct)) 0
  simp only [load, found, fileText?_fileContent, Text.unifyNewlines_of_no_return plain,
    ofFileText_fileText distinct]

theorem fileText_inOrder (distinct : Keyed.Distinct panels) :
    panels.inOrder.fileText = panels.fileText := by
  have same : panels.inOrder.inOrder = panels.inOrder :=
    inOrder_eq_of_find?_eq (distinct_inOrder distinct) distinct (find?_inOrder distinct)
  rw [fileText, same, fileText]

end Panels
end Wallboard
