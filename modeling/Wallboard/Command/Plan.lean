import Wallboard.Command.Invocation
import Wallboard.Command.Preview
import Wallboard.Disk
import Wallboard.Json.Writer
import Wallboard.Registry
import Wallboard.Schema.Snapshot
import Wallboard.Settings

/-!
What an action comes down to: a text to print at once, or one request to the service and the way in
which its answer is shown.
-/
namespace Wallboard.Command

inductive Crash
  | undecodable
  | oversizedInteger
  | undefinedNumber
  | invalidUrl
  | malformedAnswer
  | misshapenAnswer (fault : ShapeFault)

inductive Failure
  | reported (message : Text)
  | crashed (crash : Crash)

inductive Display
  | rendering
  | stored
  | refresh
  deriving DecidableEq

/-- A request to the service; `target` is below its base URL. -/
structure Call where
  method : Text
  target : Text
  document : Json

inductive Plan
  | printed (output : Text)
  | exchange (call : Call) (display : Display)

namespace Plan

def readText (disk : Disk) (file : Text) : Except Failure Text :=
  match disk.read (Path.ofText file) with
  | .error _ => .error (.crashed .undecodable)
  | .ok content =>
      match fileText? content with
      | none => .error (.crashed .undecodable)
      | some text => .ok text

/-- The part of a markup file that is a template: all of it, or what follows the first line if
that starts with the marker. -/
def bodyOf (marker text : Text) : Text :=
  if Text.startsWith text marker then (Text.cut '\n' text).2.getD [] else text

def invalidSnapshot (file : Text) (issues : List Issue) : Text :=
  Preview.line ("Invalid snapshot file ".toList ++ (Path.ofText file).text ++ [':']) ++
    issues.flatMap fun issue => Preview.line issue.text

/-- The document of the snapshot in a file. Requests cannot carry infinite coordinates. -/
def readSnapshot (disk : Disk) (file : Text) : Except Failure Json := do
  let text ← readText disk file
  let snapshot ←
    (Snapshot.ofText text).mapError fun issues => .reported (invalidSnapshot file issues)
  if snapshot.position.isFinite then .ok snapshot.toJson
  else .error (.crashed .undefinedNumber)

def check (body : Text) : Except Failure Plan :=
  match Template.compile body with
  | .error _ => .error (.crashed .oversizedInteger)
  | .ok (.invalid error) =>
      .error (.reported (Preview.line (error.name ++ ": ".toList ++ error.message)))
  | .ok (.valid elements) =>
      .ok (.printed (Preview.line
        ("Template OK (".toList ++ Integer.digits elements.length ++ " elements).".toList)))

def renderCall (markup : Text) (snapshot : Json) : Call where
  method := "POST".toList
  target := "/render".toList
  document := .object [("markup".toList, .string markup), ("snapshot".toList, snapshot)]

def storeCall (device customData : Text) : Call where
  method := "PUT".toList
  target := "/panels/".toList ++ device
  document := .object [("custom_data".toList, .string customData)]

def refreshCall (snapshot : Json) : Call where
  method := "POST".toList
  target := "/panels/refresh".toList
  document := snapshot

def ofAction (settings : Settings) (disk : Disk) : Action → Except Failure Plan
  | .check file => do
      let text ← readText disk file
      check (bodyOf settings.marker text)
  | .render file snapshot => do
      let text ← readText disk file
      let snapshot ← readSnapshot disk snapshot
      .ok (.exchange (renderCall (bodyOf settings.marker text) snapshot) .rendering)
  | .setPanel device file => do
      let text ← readText disk file
      .ok (.exchange (storeCall device text) .stored)
  | .refresh snapshot => do
      let snapshot ← readSnapshot disk snapshot
      .ok (.exchange (refreshCall snapshot) .refresh)
  | .snapshotTemplate => .ok (.printed (Preview.line (Json.write ({} : Snapshot).toJson)))

end Plan
end Wallboard.Command
