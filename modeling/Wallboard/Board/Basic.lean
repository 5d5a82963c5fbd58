import Wallboard.Board.File

/-!
A board of panels, kept in a file if it has a path. A change is made in memory first; if the file
then cannot be written, the change stays.
-/
namespace Wallboard

structure Board where
  panels : Panels := []
  path : Option Path := none
  deriving DecidableEq

inductive BoardFault
  | unknownPanel (device : Text)
  | disk (fault : DiskFault)
  deriving DecidableEq

def unknownPanelMessage (device : Text) : Text :=
  "Panel ".toList ++ Text.quoted device ++ " not found.".toList

namespace Board

structure Outcome (α : Type) where
  result : Except BoardFault α
  board : Board
  disk : Disk

/-- Opens the board of a path, making the directories above it. The files come first, so that
they are known also when opening fails. -/
def openAt (disk : Disk) : Option Path → Disk × Except LoadFault Board
  | none => (disk, .ok {})
  | some path =>
      match disk.ensureTree path.parent with
      | .error fault => (disk, .error (.disk fault))
      | .ok disk => (disk, (Panels.load disk path).map fun panels => ⟨panels, some path⟩)

def save (disk : Disk) (board : Board) : Except DiskFault Disk :=
  match board.path with
  | none => .ok disk
  | some path => disk.write path (fileContent board.panels.fileText)

def commit {α : Type} (disk : Disk) (board : Board) (panels : Panels) (answer : α) : Outcome α :=
  let board := { board with panels }
  match board.save disk with
  | .ok disk => ⟨.ok answer, board, disk⟩
  | .error fault => ⟨.error (.disk fault), board, disk⟩

def assign (disk : Disk) (board : Board) (device customData : Text) : Outcome Panel :=
  let (panel, panels) := board.panels.assign device customData
  commit disk board panels panel

def write (disk : Disk) (board : Board) (device text : Text) : Outcome Unit :=
  match board.panels.write? device text with
  | none => ⟨.error (.unknownPanel device), board, disk⟩
  | some panels => commit disk board panels ()

def remove (disk : Disk) (board : Board) (device : Text) : Outcome Unit :=
  match board.panels.remove? device with
  | none => ⟨.error (.unknownPanel device), board, disk⟩
  | some panels => commit disk board panels ()

def find? (board : Board) (device : Text) : Option Panel := Keyed.find? device board.panels

end Board
end Wallboard
