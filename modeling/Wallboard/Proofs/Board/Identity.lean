import Wallboard.Proofs.Board.Failure
import Wallboard.Proofs.Board.Stored

/-!
Panels and the devices they are kept for. No call ever puts a panel of one device in the place of
another, but a file may hold one there, and then it stays until its place is set anew or emptied.
-/
namespace Wallboard

namespace Panels

/-- The panel that is kept for a device is a panel of another one. -/
def Misplaced (panels : Panels) (device : Text) : Prop :=
  ∃ panel, Keyed.find? device panels = some panel ∧ panel.device ≠ device

end Panels

namespace Board

/-- Whatever the text or the custom data, a panel is found for its own device only, and all panels
are of the devices that the custom data is listed for, no two of the same. -/
structure OwnDevices (board : Board) : Prop where
  found : ∀ {device panel}, board.find? device = some panel → panel.device = device
  distinct : (board.panels.scan.map (·.device)).Nodup
  listed : board.panels.scan.map (·.device) = Keyed.keys board.panels.customData

def Call.Clears (device : Text) : Call → Prop
  | .assign known _ => known = device
  | .write _ _ => False
  | .remove known => known = device

variable {panels : Panels} {disk kept : Disk} {path : Option Path} {board : Board} {device : Text}

theorem Call.misplaced_applied_iff (call : Call) :
    (call.applied panels).Misplaced device ↔ panels.Misplaced device ∧ ¬ call.Clears device := by
  cases call with
  | assign known customData =>
      simp only [applied, Panels.assign, Panels.Misplaced, Keyed.find?_put, Clears]
      by_cases same : device = known
      · subst same
        simp
      · simp [same, Ne.symm same]
  | write known text =>
      simp only [applied, Panels.write?, Panels.Misplaced, Clears, not_false_iff, and_true]
      cases present : Keyed.find? known panels with
      | none => rfl
      | some panel =>
          simp only [Option.map_some, Option.getD_some, Keyed.find?_put]
          by_cases same : device = known
          · subst same
            simp [present]
          · simp [same]
  | remove known =>
      by_cases same : known = device
      · subst same
        by_cases present : Keyed.contains known panels = true
        · simp [applied, Panels.remove?, Panels.Misplaced, Clears, Keyed.find?_erase, present]
        · have absent : Keyed.find? known panels = none := by
            simpa [Keyed.contains] using present
          simp [applied, Panels.remove?, Panels.Misplaced, Clears, present, absent]
      · simp only [applied, Panels.remove?, Panels.Misplaced, Clears, same, not_false_iff, and_true]
        split
        · simp [Keyed.find?_erase, Ne.symm same]
        · rfl

theorem misplaced_after_iff (disk : Disk) (board : Board) (calls : List Call) :
    (after disk board calls).panels.Misplaced device ↔
      board.panels.Misplaced device ∧ ∀ call ∈ calls, ¬ call.Clears device := by
  rw [panels_after]
  generalize board.panels = panels
  induction calls generalizing panels with
  | nil => simp
  | cons call later ih =>
      rw [List.foldl_cons, ih, call.misplaced_applied_iff, and_assoc, List.forall_mem_cons]

theorem distinct_after (distinct : Keyed.Distinct board.panels) (disk : Disk) (calls : List Call) :
    Keyed.Distinct (after disk board calls).panels := by
  induction calls generalizing disk board with
  | nil => exact distinct
  | cons call later ih => exact ih (call.distinct_outcome distinct disk) _

theorem ownDevices_iff (distinct : Keyed.Distinct board.panels) :
    board.OwnDevices ↔ ∀ device, ¬ board.panels.Misplaced device := by
  constructor
  · rintro own device ⟨panel, found, differs⟩
    exact differs (own.found found)
  · intro placed
    have same : ∀ entry ∈ board.panels, entry.2.device = entry.1 := by
      intro entry member
      by_contra differs
      exact placed entry.1 ⟨entry.2, distinct.find?_eq_some_iff.mpr member, differs⟩
    have keys : board.panels.scan.map (·.device) = Keyed.keys board.panels := by
      rw [Panels.scan, List.map_map]
      exact List.map_congr_left same
    constructor
    case found =>
      intro device panel found
      exact same _ (Keyed.mem_of_find? found)
    case distinct =>
      rw [keys]
      exact distinct
    case listed => rw [keys, Panels.customData, Keyed.keys_map]

/-- After any calls on a board that was opened on any file, a panel is misplaced exactly if the file
had it in its place and no call has set or emptied that place since. So every panel is kept for its
own device once each such place has been cleared, and always if the file has no misplaced panel. -/
theorem misplaced_only_by_file (opened : openAt disk path = (kept, .ok board)) (calls : List Call) :
    (∀ device, (after kept board calls).panels.Misplaced device ↔
      board.panels.Misplaced device ∧ ∀ call ∈ calls, ¬ call.Clears device) ∧
    ((after kept board calls).OwnDevices ↔
      ∀ device, board.panels.Misplaced device → ∃ call ∈ calls, call.Clears device) := by
  have each : ∀ device, (after kept board calls).panels.Misplaced device ↔
      board.panels.Misplaced device ∧ ∀ call ∈ calls, ¬ call.Clears device :=
    fun device => misplaced_after_iff kept board calls
  refine ⟨each, ?_⟩
  rw [ownDevices_iff (distinct_after (distinct_openAt opened) kept calls)]
  simp only [each, not_and, not_forall, not_not, exists_prop]

def strayPath : Path := ⟨false, ["panels.json".toList]⟩

def strayPanels : Panels := [(['a'], { device := ['b'] })]

def strayDisk : Disk := ⟨[(strayPath.names, .file (fileContent strayPanels.fileText))]⟩

def strayBoard : Board := ⟨strayPanels, some strayPath⟩

theorem openAt_strayDisk : openAt strayDisk (some strayPath) = (strayDisk, .ok strayBoard) := by
  have made : strayDisk.ensureTree strayPath.parent = .ok strayDisk :=
    Disk.ensureTree_of_directory rfl
  have distinct : Keyed.Distinct strayPanels := by decide
  have single : strayPanels.inOrder = strayPanels := List.mergeSort_singleton _
  rw [openAt_of_made made, Panels.load_of_read distinct rfl, single]
  rfl

theorem misplaced_strayPanels : strayPanels.Misplaced ['a'] := ⟨{ device := ['b'] }, rfl, by decide⟩

/-- A text does not bring the panel to its own device, but new custom data does. -/
theorem misplaced_until_set :
    openAt strayDisk (some strayPath) = (strayDisk, .ok strayBoard) ∧
      ¬ (after strayDisk strayBoard [.write ['a'] "hi".toList]).OwnDevices ∧
      (after strayDisk strayBoard [.assign ['a'] "hi".toList]).OwnDevices := by
  have written := misplaced_only_by_file openAt_strayDisk [.write ['a'] "hi".toList]
  have assigned := misplaced_only_by_file openAt_strayDisk [.assign ['a'] "hi".toList]
  refine ⟨openAt_strayDisk, ?_, ?_⟩
  · rw [written.2]
    intro cleared
    obtain ⟨call, among, clears⟩ := cleared ['a'] misplaced_strayPanels
    rw [List.mem_singleton.mp among] at clears
    exact clears
  · apply assigned.2.mpr
    rintro device ⟨panel, found, _⟩
    have only : device = ['a'] := by
      have known := Keyed.mem_of_find? found
      simpa using congrArg Prod.fst (List.mem_singleton.mp known)
    exact ⟨_, List.mem_singleton_self _, only.symm⟩

/-- The panel that such a file holds for the device a is found for it, and is a panel of b. -/
theorem stray_panel_found_for_other_device :
    openAt strayDisk (some strayPath) = (strayDisk, .ok strayBoard) ∧
      strayBoard.find? ['a'] = some { device := ['b'] } ∧
      Keyed.keys strayBoard.panels.customData = [['a']] ∧
      strayBoard.panels.scan.map (·.device) = [['b']] ∧ ¬ strayBoard.OwnDevices := by
  refine ⟨openAt_strayDisk, rfl, rfl, rfl, ?_⟩
  intro own
  have same := own.found (rfl : strayBoard.find? ['a'] = some { device := ['b'] })
  cases same

end Board
end Wallboard
