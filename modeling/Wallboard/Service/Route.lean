import Wallboard.Service.Message

namespace Wallboard.Service

inductive Endpoint
  | render
  | listPanels
  | putPanel (device : Text)
  | deletePanel (device : Text)
  | refreshPanels
  | health
  | welcome
  deriving DecidableEq

def Endpoint.method : Endpoint → Text
  | render => "POST".toList
  | listPanels => "GET".toList
  | putPanel _ => "PUT".toList
  | deletePanel _ => "DELETE".toList
  | refreshPanels => "POST".toList
  | health => "GET".toList
  | welcome => "GET".toList

def fixedPaths : List (Text × Endpoint) :=
  [("/render".toList, .render), ("/panels".toList, .listPanels),
   ("/panels/refresh".toList, .refreshPanels), ("/health".toList, .health),
   ("/".toList, .welcome)]

/-- A fixed path also has a form with a line feed at its end. -/
def isPath (path fixed : Text) : Bool := path = fixed || path = fixed ++ ['\n']

def panelsFolder : Text := "/panels/".toList

/-- The device that a path names: one segment below the panels, of any characters but slashes. -/
def deviceOf? (path : Text) : Option Text :=
  let device := path.drop panelsFolder.length
  if Text.startsWith path panelsFolder && !device.isEmpty && !device.contains '/' then some device
  else none

def endpointsAt (path : Text) : List Endpoint :=
  ((fixedPaths.filter fun entry => isPath path entry.1).map (·.2)) ++
    match deviceOf? path with
    | some device => [.putPanel device, .deletePanel device]
    | none => []

inductive Route
  | served (endpoint : Endpoint)
  | wrongMethod
  | redirected (path : Text)
  | unknown
  deriving DecidableEq

/-- The path without its trailing slashes, or with one if it has none. -/
def otherForm (path : Text) : Text :=
  if Text.endsWith path ['/'] then Text.dropTrailing '/' path else path ++ ['/']

def Route.ofRequest (method path : Text) : Route :=
  let endpoints := endpointsAt path
  match endpoints.find? fun endpoint => endpoint.method = method with
  | some endpoint => .served endpoint
  | none =>
      if !endpoints.isEmpty then .wrongMethod
      else if path ≠ ['/'] ∧ !(endpointsAt (otherForm path)).isEmpty then
        .redirected (otherForm path)
      else .unknown

def keepsInLocation (char : Char) : Bool := ":/%#?=@[]!$&'()*+,;".toList.contains char

def Request.locationOf (request : Request) (path : Text) : Text :=
  let query := if request.query.isEmpty then [] else '?' :: request.query
  Percent.encode keepsInLocation (request.origin ++ path ++ query)

end Wallboard.Service
