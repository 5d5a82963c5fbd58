import Wallboard.Command.Run

/-!
The program. The service that the commands talk to runs in the same process, on a board that is
read from its file before the command and written back after it.
-/
namespace Wallboard.Program

def readVariables : List Text :=
  [Settings.markerVariable, Settings.boardPathVariable, Settings.logLevelVariable,
   Command.Config.baseUrlVariable, Command.Config.timeoutVariable]

def namedFiles (arguments : List Text) : List Text :=
  match Command.Invocation.ofArguments arguments with
  | .error _ => []
  | .ok invocation =>
      match invocation.action with
      | .error _ => []
      | .ok action => action.files

def withFile (disk : Disk) (path : Path) (content : ByteArray) : Disk :=
  ((disk.ensureTree path.parent).bind fun disk => disk.write path content).toOption.getD disk

def readEnvironment : IO Environment := do
  let values ← readVariables.mapM fun name => do
    let value ← IO.getEnv (String.ofList name)
    return value.map fun value => (name, value.toList)
  return values.filterMap id

def readFile (disk : Disk) (path : Path) : IO Disk := do
  match ← (IO.FS.readBinFile (String.ofList path.text)).toBaseIO with
  | .error _ => return disk
  | .ok content => return withFile disk path content

def readFiles (paths : List Path) : IO Disk := paths.foldlM readFile {}

def writeBoard (station : Station) : IO Unit := do
  match station.board.path with
  | none => return
  | some path =>
      match station.disk.read path with
      | .error _ => return
      | .ok content =>
          IO.FS.createDirAll (String.ofList path.parent.text)
          IO.FS.writeBinFile (String.ofList path.text) content

def run (arguments : List Text) : IO UInt32 := do
  let environment ← readEnvironment
  let settings := Settings.ofEnvironment environment
  let named := (namedFiles arguments).map Path.ofText
  let disk ← readFiles (named ++ (settings.boardPath.map Path.ofText).toList)
  match Station.openAt disk settings none with
  | (_, .error _) =>
      IO.eprintln "The file of the board cannot be read."
      return 1
  | (_, .ok station) =>
      let (outcome, station) :=
        Command.run Command.stationServer station environment disk arguments
      IO.print (String.ofList outcome.output)
      IO.eprint (String.ofList outcome.errors)
      writeBoard station
      return UInt32.ofNat outcome.exitCode

end Wallboard.Program

def main (arguments : List String) : IO UInt32 :=
  Wallboard.Program.run (arguments.map String.toList)
