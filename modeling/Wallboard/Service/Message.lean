import Wallboard.Json.Encoding
import Wallboard.Json.Writer
import Wallboard.Schema.Snapshot
import Wallboard.Web.Url

namespace Wallboard.Service

/-- `origin` is the scheme and the host that the request was sent to. -/
structure Request where
  method : Text
  origin : Text
  path : Text
  query : Text := []
  body : Text := []
  deriving DecidableEq

/-- The request to a URL. Its path is decoded once by the sender and once by the receiver. -/
def Request.ofUrl (method : Text) (url : Url) (body : Text) : Request where
  method := method.map Char.toUpper
  origin := url.scheme ++ "://".toList ++ url.location
  path := Percent.decode (Percent.decode (if url.path.isEmpty then ['/'] else url.path))
  query := url.query.getD []
  body := body

inductive Content
  | empty
  | json (value : Json)
  | text (text : Text)

structure Response where
  status : Nat
  content : Content := .empty
  location : Option Text := none

namespace Response

def ofJson (value : Json) : Response := { status := 200, content := .json value }

def ofDetail (status : Nat) (detail : Json) : Response :=
  { status, content := .json (.object [("detail".toList, detail)]) }

def internalError : Response :=
  { status := 500, content := .text "Internal Server Error".toList }

def unreadableBody : Response :=
  ofDetail 400 (.string "There was an error parsing the body".toList)

def ofIssues (issues : List Issue) : Response :=
  ofDetail 422 (.array (issues.map Issue.toJson))

def bodyText (response : Response) : Text :=
  match response.content with
  | .empty => []
  | .json value => Json.write value
  | .text text => text

end Response

def Request.document (request : Request) : Except Response Json :=
  if request.body.isEmpty then
    .error (.ofIssues [{ kind := .missing, location := [.member "body".toList] }])
  else
    match Json.sentText? request.body with
    | none => .error .unreadableBody
    | some text =>
        match Json.read text with
        | .ok value => .ok value
        | .error (.malformed left) =>
            .error <| .ofIssues
              [{ kind := .jsonInvalid
                 location := [.member "body".toList, .offset (Json.offset text left)] }]
        | .error (.oversized _) => .error .unreadableBody

def Request.checked {α : Type} (request : Request) (check : Json → Check α) :
    Except Response α := do
  let document ← request.document
  (Check.under (.member "body".toList) (check document)).mapError .ofIssues

def checkRendering : Json → Check (Text × Snapshot) :=
  Check.record .modelAttributesType fun members =>
    Check.both (Check.required "markup".toList Check.text members)
      (Check.optional "snapshot".toList {} (Check.snapshot .modelAttributesType) members)

def checkCustomData : Json → Check Text :=
  Check.record .modelAttributesType (Check.required "custom_data".toList Check.text)

def checkSnapshot : Json → Check Snapshot := Check.snapshot .modelAttributesType

end Wallboard.Service
