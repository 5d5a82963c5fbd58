import Wallboard.Command.Config
import Wallboard.Command.Plan
import Wallboard.Service.Handler

namespace Wallboard.Command

structure Reply where
  status : Nat
  body : Text
  deriving DecidableEq

/-- A server answers a request or cannot be reached, for a reason that it gives. -/
abbrev Server (σ : Type) := σ → Service.Request → Except Text Reply × σ

def stationServer : Server Station := fun station request =>
  let (response, station) := Service.handle station request
  (.ok ⟨response.status, response.bodyText⟩, station)

structure Sent where
  method : Text
  url : Url
  document : Json

/-- All that is seen of a run. The configuration is there once the program got as far as that. -/
structure Outcome where
  exitCode : Nat
  output : Text := []
  errors : Text := []
  sent : List Sent := []
  crash : Option Crash := none
  config : Option Config := none

namespace Reply

def isSuccess (reply : Reply) : Bool := 200 ≤ reply.status && reply.status < 300

def document (reply : Reply) : Except Crash Json :=
  match Json.sentText? reply.body with
  | none => .error .undecodable
  | some text =>
      match Json.read text with
      | .ok found => .ok found
      | .error (.malformed _) => .error .malformedAnswer
      | .error (.oversized _) => .error .oversizedInteger

def detail (reply : Reply) : Text :=
  let missing := "no detail provided.".toList
  match reply.document with
  | .ok (.object members) =>
      let detail := (Json.member? "detail".toList members).getD .null
      if detail.isTruthy then detail.shown else missing
  | _ =>
      let text := Text.strip reply.body
      if text.isEmpty then missing else text

end Reply

namespace Outcome

def ofStop : Stop → Outcome
  | .usage => { exitCode := 2 }
  | .help => { exitCode := 0 }

def ofCrash (crash : Crash) : Outcome := { exitCode := 1, crash := some crash }

def ofFailure : Failure → Outcome
  | .reported message => { exitCode := 1, errors := message }
  | .crashed crash => ofCrash crash

def ofPreview (preview : Preview) (exitCode : Nat) : Outcome :=
  match preview.fault with
  | none => { exitCode, output := preview.output }
  | some fault => { ofCrash (.misshapenAnswer fault) with output := preview.output }

/-- An answer as it is shown. A template that is not valid makes the run fail. -/
def ofAnswer (display : Display) (answer : Json) : Outcome :=
  match display with
  | .stored => ofPreview (Preview.stored answer) 0
  | .refresh => ofPreview (Preview.refresh answer) 0
  | .rendering =>
      let valid :=
        match answer with
        | .object members => Preview.isTruthyMember "valid".toList members
        | _ => false
      ofPreview (Preview.rendering answer) (if valid then 0 else 1)

def ofReply (display : Display) (reply : Reply) : Outcome :=
  if reply.isSuccess then
    match reply.document with
    | .ok answer => ofAnswer display answer
    | .error crash => ofCrash crash
  else
    let message :=
      "Request failed with status ".toList ++ Integer.digits reply.status ++ ": ".toList ++
        reply.detail
    { exitCode := 1, errors := Preview.line message }

def ofUnreachable (config : Config) (reason : Text) : Outcome :=
  let message := "Could not reach ".toList ++ config.baseUrl ++ ": ".toList ++ reason
  { exitCode := 1, errors := Preview.line message }

end Outcome

section

variable {σ : Type}

def exchange (server : Server σ) (state : σ) (config : Config) (base : Url) (call : Call)
    (display : Display) : Outcome × σ :=
  match base.resolve call.target with
  | .error _ => (.ofCrash .invalidUrl, state)
  | .ok url =>
      let request := Service.Request.ofUrl call.method url (Json.write call.document)
      let (reply, state) := server state request
      let outcome :=
        match reply with
        | .error reason => Outcome.ofUnreachable config reason
        | .ok reply => Outcome.ofReply display reply
      ({ outcome with sent := [⟨call.method, url, call.document⟩] }, state)

def namesFile (disk : Disk) (argument : Text) : Bool :=
  let last := (Text.splitAt '/' argument).getLast?.getD []
  !last.isEmpty && last ≠ ['.'] && disk.isFile (Path.ofText argument)

def perform (server : Server σ) (state : σ) (settings : Settings) (disk : Disk)
    (config : Config) (base : Url) (action : Action) : Outcome × σ :=
  if action.files.all (namesFile disk) then
    match Plan.ofAction settings disk action with
    | .error failure => (.ofFailure failure, state)
    | .ok (.printed output) => ({ exitCode := 0, output }, state)
    | .ok (.exchange call display) => exchange server state config base call display
  else (.ofStop .usage, state)

def run (server : Server σ) (state : σ) (environment : Environment) (disk : Disk)
    (arguments : List Text) : Outcome × σ :=
  match Invocation.ofArguments arguments with
  | .error stop => (.ofStop stop, state)
  | .ok invocation =>
      let config := Config.load environment invocation.baseUrl invocation.timeout
      match Url.ofBase config.baseUrl, invocation.action with
      | .error _, _ => (.ofCrash .invalidUrl, state)
      | .ok _, .error stop => ({ Outcome.ofStop stop with config := some config }, state)
      | .ok base, .ok action =>
          let settings := Settings.ofEnvironment environment
          let (outcome, state) := perform server state settings disk config base action
          ({ outcome with config := some config }, state)

end

end Wallboard.Command
