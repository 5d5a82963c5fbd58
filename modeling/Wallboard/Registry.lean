import Wallboard.Display.Template

/-!
Which devices carry markup, each with the template of its text. A template is compiled when its
text is new or has changed, and kept for as long as the text stays the same.
-/
namespace Wallboard

/-- A device with the whole text of its field and the template of the part after its first line. -/
structure Binding where
  device : Text
  rawText : Text
  template : Template
  deriving DecidableEq

structure Registry where
  marker : Text
  bindings : List (Text × Binding) := []
  deriving DecidableEq

/-- A compiler of template bodies, which may stop with a fault of its own. -/
abbrev Compiler (fault : Type) := Text → Except fault Template

/-- The text after the first line, which holds the marker; empty if there is no second line. -/
def templateBody (text : Text) : Text :=
  match Text.cut '\n' text with
  | (_, some body) => body
  | (_, none) => []

namespace Registry

/-- What came of an operation: the answer, the registry afterwards, the bodies that were handed to
the compiler, and the notices. A fault leaves the registry as it was when the fault was met. -/
structure Outcome (fault α : Type) where
  result : Except fault α
  registry : Registry
  compiled : List Text := []
  notices : List Notice := []

def devices (registry : Registry) : List Text := Keyed.keys registry.bindings

def contains (registry : Registry) (device : Text) : Bool :=
  Keyed.contains device registry.bindings

def find? (registry : Registry) (device : Text) : Option Binding :=
  Keyed.find? device registry.bindings

def size (registry : Registry) : Nat := registry.bindings.length

def isMarked (registry : Registry) (text : Text) : Bool := Text.startsWith text registry.marker

def bind (registry : Registry) (device : Text) (binding : Binding) : Registry :=
  { registry with bindings := Keyed.put device binding registry.bindings }

def forget (registry : Registry) (device : Text) : Registry :=
  { registry with bindings := Keyed.erase device registry.bindings }

def forgetNotices (registry : Registry) (device : Text) : List Notice :=
  if registry.contains device then [.bindingRemoved device] else []

def bindNotices (device : Text) (known : Bool) (template : Template) : List Notice :=
  template.notices ++
    match template with
    | .invalid error => [.templateFailed device error]
    | .valid _ => [if known then .templateRecompiled device else .templateCompiled device]

variable {fault : Type}

def rebind (compile : Compiler fault) (registry : Registry) (device text : Text) :
    Outcome fault (Option Binding) :=
  let body := templateBody text
  match compile body with
  | .error fault => { result := .error fault, registry, compiled := [body] }
  | .ok template =>
      let binding : Binding := ⟨device, text, template⟩
      { result := .ok (some binding)
        registry := registry.bind device binding
        compiled := [body]
        notices := bindNotices device (registry.contains device) template }

/-- Brings the binding of one device in line with its current text. -/
def observe (compile : Compiler fault) (registry : Registry) (device text : Text) :
    Outcome fault (Option Binding) :=
  if registry.isMarked text then
    match registry.find? device with
    | some binding =>
        if binding.rawText = text then { result := .ok (some binding), registry }
        else registry.rebind compile device text
    | none => registry.rebind compile device text
  else
    { result := .ok none
      registry := registry.forget device
      notices := registry.forgetNotices device }

def observeAll (compile : Compiler fault) (registry : Registry) :
    List (Text × Text) → Outcome fault Unit
  | [] => { result := .ok (), registry }
  | (device, text) :: rest =>
      let head := registry.observe compile device text
      match head.result with
      | .error fault =>
          { result := .error fault
            registry := head.registry
            compiled := head.compiled
            notices := head.notices }
      | .ok _ =>
          let tail := observeAll compile head.registry rest
          { tail with
            compiled := head.compiled ++ tail.compiled
            notices := head.notices ++ tail.notices }

def keepOnly (registry : Registry) (present : List Text) : Registry :=
  { registry with
    bindings := registry.bindings.filter fun entry => decide (entry.1 ∈ present) }

def missing (registry : Registry) (present : List Text) : List Text :=
  registry.devices.filter fun device => decide (device ∉ present)

/-- Observes every field and then forgets the devices that have none. -/
def sync (compile : Compiler fault) (registry : Registry) (fields : List (Text × Text)) :
    Outcome fault Unit :=
  let observed := registry.observeAll compile fields
  match observed.result with
  | .error _ => observed
  | .ok () =>
      let present := Keyed.keys fields
      { observed with
        registry := observed.registry.keepOnly present
        notices :=
          observed.notices ++ (observed.registry.missing present).map Notice.bindingRemoved }

def evaluations (registry : Registry) (snapshot : Snapshot) : List (Text × Evaluation) :=
  registry.bindings.map fun entry => (entry.1, entry.2.template.evaluate snapshot)

end Registry
end Wallboard
