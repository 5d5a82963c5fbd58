import Wallboard.Log.Context
import Wallboard.Log.Level
import Wallboard.Markup.Template

namespace Wallboard

inductive Notice
  | templateRejected (error : MarkupError)
  | elementFailed (kind reason : Text)
  | templateCompiled (device : Text)
  | templateRecompiled (device : Text)
  | templateFailed (device : Text) (error : MarkupError)
  | bindingRemoved (device : Text)
  | panelVanished (device : Text)
  | cycleComplete (bound : Nat)
  deriving DecidableEq

namespace Notice

def level : Notice → Log.Level
  | templateRejected _ => .debug
  | elementFailed .. => .error
  | templateCompiled _ => .info
  | templateRecompiled _ => .info
  | templateFailed .. => .warning
  | bindingRemoved _ => .info
  | panelVanished _ => .warning
  | cycleComplete _ => .debug

def reporter : Notice → Text
  | templateRejected _ => "services.parser".toList
  | elementFailed .. => "services.template".toList
  | templateCompiled _ => "services.registry".toList
  | templateRecompiled _ => "services.registry".toList
  | templateFailed .. => "services.registry".toList
  | bindingRemoved _ => "services.registry".toList
  | panelVanished _ => "services.refresher".toList
  | cycleComplete _ => "services.refresher".toList

def message : Notice → Text
  | templateRejected _ => "Template rejected".toList
  | elementFailed .. => "Element failed to render".toList
  | templateCompiled _ => "Template compiled".toList
  | templateRecompiled _ => "Template recompiled".toList
  | templateFailed .. => "Template failed to compile".toList
  | bindingRemoved _ => "Binding removed".toList
  | panelVanished _ => "Panel disappeared before write".toList
  | cycleComplete _ => "Refresh cycle complete".toList

def errorContext (error : MarkupError) : List (Text × Text) :=
  [("error".toList, error.name), ("reason".toList, error.message)]

def context : Notice → List (Text × Text)
  | templateRejected error =>
      errorContext error ++
        (error.offset?.map fun offset => ("offset".toList, Integer.digits offset)).toList
  | elementFailed kind reason => [("element_kind".toList, kind), ("reason".toList, reason)]
  | templateFailed device error => ("device_id".toList, device) :: errorContext error
  | templateCompiled device => [("device_id".toList, device)]
  | templateRecompiled device => [("device_id".toList, device)]
  | bindingRemoved device => [("device_id".toList, device)]
  | panelVanished device => [("device_id".toList, device)]
  | cycleComplete bound => [("bound_count".toList, Integer.digits bound)]

def line (notice : Notice) : Text :=
  Log.withContext (notice.level.name ++ ' ' :: notice.reporter ++ ' ' :: notice.message)
    notice.context

end Notice

def Template.notices : Template → List Notice
  | .valid _ => []
  | .invalid error => [.templateRejected error]

end Wallboard
