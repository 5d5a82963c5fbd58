import Wallboard.Service.Route
import Wallboard.Station

/-!
The service: a station that answers requests. What a request changed before it failed stays
changed.
-/
namespace Wallboard.Service

def panelView (station : Station) (panel : Panel) : Json :=
  .object
    [("device_id".toList, .string panel.device),
     ("custom_data".toList, .string panel.customData),
     ("text".toList, .string panel.text),
     ("bound".toList, .bool (station.isBound panel.device))]

def panelViews (station : Station) : Json :=
  let inOrder :=
    station.board.panels.scan.mergeSort fun left right => Text.precedes left.device right.device
  .array (inOrder.map (panelView station))

def renderingView (valid : Bool) (text : Text) (error : Json) : Json :=
  .object
    [("valid".toList, .bool valid), ("text".toList, .string text), ("error".toList, error)]

def render (markup : Text) (snapshot : Snapshot) : Response :=
  match Template.compile markup with
  | .error _ => .internalError
  | .ok (.invalid error) => .ofJson (renderingView false error.message (.string error.name))
  | .ok (.valid elements) =>
      let evaluation := Template.evaluateElements elements snapshot
      .ofJson (renderingView true evaluation.text .null)

def putPanel (station : Station) (device customData : Text) : Response × Station :=
  let assigned := station.board.assign station.disk device customData
  let station := { station with board := assigned.board, disk := assigned.disk }
  match assigned.result with
  | .error _ => (.internalError, station)
  | .ok panel =>
      let observed := station.observe device panel.customData
      match observed.result with
      | .error _ => (.internalError, observed.station)
      | .ok _ => (.ofJson (panelView observed.station panel), observed.station)

def deletePanel (station : Station) (device : Text) : Response × Station :=
  let removed := station.board.remove station.disk device
  let station := { station with board := removed.board, disk := removed.disk }
  match removed.result with
  | .ok () => ({ status := 204 }, { station with registry := station.registry.forget device })
  | .error (.unknownPanel device) =>
      (.ofDetail 404 (.string (Text.quoted (unknownPanelMessage device))), station)
  | .error (.disk _) => (.internalError, station)

def refreshPanels (station : Station) (snapshot : Snapshot) : Response × Station :=
  let cycle := station.cycle snapshot []
  match cycle.result with
  | .error _ => (.internalError, cycle.station)
  | .ok outputs =>
      let view :=
        Json.object
          [("bound".toList, .int outputs.length), ("panels".toList, panelViews cycle.station)]
      (.ofJson view, cycle.station)

def healthView : Json := .object [("status".toList, .string "ok".toList)]

def welcomeView : Json :=
  .object
    [("status".toList, .string "ok".toList),
     ("detail".toList, .string "See /health for service status.".toList)]

def answerWith {α : Type} (station : Station) (found : Except Response α)
    (answer : α → Response × Station) : Response × Station :=
  match found with
  | .error refusal => (refusal, station)
  | .ok value => answer value

def serve (station : Station) (request : Request) : Endpoint → Response × Station
  | .render =>
      answerWith station (request.checked checkRendering) fun found =>
        (render found.1 found.2, station)
  | .listPanels => (.ofJson (panelViews station), station)
  | .putPanel device =>
      answerWith station (request.checked checkCustomData) (putPanel station device)
  | .deletePanel device => deletePanel station device
  | .refreshPanels =>
      answerWith station (request.checked checkSnapshot)
        (refreshPanels station)
  | .health => (.ofJson healthView, station)
  | .welcome => (.ofJson welcomeView, station)

def answer (station : Station) (request : Request) : Response × Station :=
  match Route.ofRequest request.method request.path with
  | .served endpoint => serve station request endpoint
  | .wrongMethod => (.ofDetail 405 (.string "Method Not Allowed".toList), station)
  | .redirected path =>
      ({ status := 307, location := some (request.locationOf path) }, station)
  | .unknown => (.ofDetail 404 (.string "Not Found".toList), station)

/-- The response of a station to a request. A request for the head alone gets no body. -/
def handle (station : Station) (request : Request) : Response × Station :=
  let (response, station) := answer station request
  if request.method = "HEAD".toList then ({ response with content := .empty }, station)
  else (response, station)

end Wallboard.Service
