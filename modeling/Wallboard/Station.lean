import Wallboard.Board.Basic
import Wallboard.Registry
import Wallboard.Settings

/-!
A station joins a board and a registry. In one refresh cycle it reconciles the bindings with the
custom data of the panels, evaluates all templates against one snapshot and writes the texts back.
-/
namespace Wallboard

structure Station where
  board : Board
  registry : Registry
  disk : Disk := {}

inductive CycleFault
  | oversized (numeral : Integer.Oversized)
  | disk (fault : DiskFault)
  deriving DecidableEq

namespace Station

structure Outcome (fault α : Type) where
  result : Except fault α
  station : Station
  notices : List Notice := []

/-- Opens the board of the settings and starts with no bindings. A marker that is given comes
before the one of the settings. -/
def openAt (disk : Disk) (settings : Settings) (marker : Option Text) :
    Disk × Except LoadFault Station :=
  let (disk, opened) := Board.openAt disk (settings.boardPath.map Path.ofText)
  (disk, opened.map fun board =>
    { board, registry := { marker := marker.getD settings.marker }, disk })

def observe (station : Station) (device customData : Text) :
    Outcome Integer.Oversized Bool :=
  let observed := station.registry.observe Template.compile device customData
  { result := observed.result.map (·.isSome)
    station := { station with registry := observed.registry }
    notices := observed.notices }

def isBound (station : Station) (device : Text) : Bool := station.registry.contains device

def dropVanished (station : Station) (device : Text) : Station × List Notice :=
  ({ station with registry := station.registry.forget device },
    .panelVanished device :: station.registry.forgetNotices device)

def writeTexts (station : Station) : List (Text × Text) → Outcome DiskFault Unit
  | [] => { result := .ok (), station }
  | (device, text) :: rest =>
      let written := station.board.write station.disk device text
      match written.result with
      | .error (.disk fault) =>
          { result := .error fault
            station := { station with board := written.board, disk := written.disk } }
      | .ok () =>
          writeTexts { station with board := written.board, disk := written.disk } rest
      | .error (.unknownPanel _) =>
          let (station, notices) := station.dropVanished device
          let tail := writeTexts station rest
          { tail with notices := notices ++ tail.notices }

/-- One refresh cycle over the panels of the board and the panels that are `reported` beside them,
which take the place of panels of the same device. The answer holds the text of every binding. -/
def cycle (station : Station) (snapshot : Snapshot) (reported : List (Text × Text)) :
    Outcome CycleFault (List (Text × Text)) :=
  let fields := Keyed.putAll station.board.panels.customData reported
  let synced := station.registry.sync Template.compile fields
  let station := { station with registry := synced.registry }
  match synced.result with
  | .error numeral => { result := .error (.oversized numeral), station, notices := synced.notices }
  | .ok () =>
      let evaluations := station.registry.evaluations snapshot
      let texts := evaluations.map fun entry => (entry.1, entry.2.text)
      let evaluated := evaluations.flatMap fun entry => entry.2.notices
      let written := station.writeTexts texts
      let notices := synced.notices ++ evaluated ++ written.notices
      match written.result with
      | .error fault => { result := .error (.disk fault), station := written.station, notices }
      | .ok () =>
          { result := .ok texts
            station := written.station
            notices := notices ++ [.cycleComplete texts.length] }

end Station
end Wallboard
