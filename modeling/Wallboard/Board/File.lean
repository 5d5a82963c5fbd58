import Wallboard.Board.Panel
import Wallboard.Disk
import Wallboard.Json.Reader
import Wallboard.Json.Writer

namespace Wallboard

inductive LoadFault
  | disk (fault : DiskFault)
  | undecodable
  | oversized (numeral : Integer.Oversized)
  | notAnObject (found : Json)
  | invalidPanel (issues : List Issue)

namespace Panels

def inOrder (panels : Panels) : Panels :=
  panels.mergeSort fun left right => Text.precedes left.1 right.1

def fileText (panels : Panels) : Text :=
  Json.write (.object (panels.inOrder.map fun entry => (entry.1, entry.2.toJson)))

/-- The panels of an object, up to the first one that is invalid. -/
def ofMembers : List (Text × Json) → Check Panels
  | [] => .ok []
  | (device, value) :: rest => do
      let panel ← Panel.ofJson value
      let panels ← ofMembers rest
      .ok ((device, panel) :: panels)

def ofJson : Json → Except LoadFault Panels
  | .object members => (ofMembers members).mapError .invalidPanel
  | found => .error (.notAnObject found)

/-- The panels that the text of a file holds. An empty or malformed text holds none. -/
def ofFileText (text : Text) : Except LoadFault Panels :=
  match Json.read text with
  | .error (.malformed _) => .ok []
  | .error (.oversized numeral) => .error (.oversized numeral)
  | .ok found => ofJson found

def load (disk : Disk) (path : Path) : Except LoadFault Panels :=
  match disk.read path with
  | .error _ => .ok []
  | .ok content =>
      match fileText? content with
      | none => .error .undecodable
      | some text => ofFileText text

end Panels

end Wallboard
