import Wallboard.Command.Option
import Wallboard.Number.Reading

namespace Wallboard.Command

inductive Action
  | check (file : Text)
  | render (file snapshot : Text)
  | setPanel (device file : Text)
  | refresh (snapshot : Text)
  | snapshotTemplate
  deriving DecidableEq

def Action.files : Action → List Text
  | check file => [file]
  | render file snapshot => [file, snapshot]
  | setPanel _ file => [file]
  | refresh snapshot => [snapshot]
  | snapshotTemplate => []

/-- The action is read only after the shared options are known to be right. -/
structure Invocation where
  baseUrl : Option Text
  timeout : Option Binary64
  action : Except Stop Action

namespace Invocation

def helpChoice : Choice := { long := "--help".toList, short := some 'h', takesValue := false }

def baseUrlChoice : Choice := { long := "--base-url".toList, short := some 'b' }

def timeoutChoice : Choice := { long := "--timeout".toList }

def snapshotChoice : Choice := { long := "--snapshot".toList, short := some 's' }

def withoutHelp (scan : Scan) : Except Stop Scan :=
  if scan.holds helpChoice then .error .help else .ok scan

def fileOnly (arguments : List Text) : Except Stop Action := do
  let scan ← withoutHelp (← Scan.arguments [helpChoice] true arguments)
  match scan.operands with
  | [file] => .ok (.check file)
  | _ => .error .usage

def fileAndSnapshot (arguments : List Text) : Except Stop Action := do
  let scan ← withoutHelp (← Scan.arguments [helpChoice, snapshotChoice] true arguments)
  match scan.operands, scan.value? snapshotChoice with
  | [file], some snapshot => .ok (.render file snapshot)
  | _, _ => .error .usage

def deviceAndFile (arguments : List Text) : Except Stop Action := do
  let scan ← withoutHelp (← Scan.arguments [helpChoice] true arguments)
  match scan.operands with
  | [device, file] => .ok (.setPanel device file)
  | _ => .error .usage

def snapshotOnly (arguments : List Text) : Except Stop Action := do
  let scan ← withoutHelp (← Scan.arguments [helpChoice, snapshotChoice] true arguments)
  match scan.operands, scan.value? snapshotChoice with
  | [], some snapshot => .ok (.refresh snapshot)
  | _, _ => .error .usage

def nothing (arguments : List Text) : Except Stop Action := do
  let scan ← withoutHelp (← Scan.arguments [helpChoice] true arguments)
  if scan.operands.isEmpty then .ok .snapshotTemplate else .error .usage

def commands : List (Text × (List Text → Except Stop Action)) :=
  [("check".toList, fileOnly), ("render".toList, fileAndSnapshot),
   ("set-panel".toList, deviceAndFile), ("refresh".toList, snapshotOnly),
   ("snapshot-template".toList, nothing)]

def timeoutOf (scan : Scan) : Except Stop (Option Binary64) :=
  match scan.value? timeoutChoice with
  | none => .ok none
  | some text =>
      match Binary64.readLoose? text with
      | none => .error .usage
      | some timeout => .ok (some timeout)

def ofArguments (arguments : List Text) : Except Stop Invocation := do
  let choices := [helpChoice, baseUrlChoice, timeoutChoice]
  let scan ← withoutHelp (← Scan.arguments choices false arguments)
  let timeout ← timeoutOf scan
  match scan.operands with
  | [] => .error .usage
  | name :: rest =>
      match commands.find? fun entry => decide (entry.1 = name) with
      | none => .error .usage
      | some (_, read) =>
          .ok { baseUrl := scan.value? baseUrlChoice, timeout, action := read rest }

end Invocation
end Wallboard.Command
