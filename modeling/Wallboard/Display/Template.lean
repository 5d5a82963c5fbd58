import Wallboard.Display.Element
import Wallboard.Notice

namespace Wallboard

def Display.elements (snapshot : Snapshot) : List Element → Except (Element × DisplayFault) Text
  | [] => .ok []
  | element :: rest =>
      match Display.element snapshot element with
      | .error fault => .error (element, fault)
      | .ok text => (Display.elements snapshot rest).map (text ++ ·)

structure Evaluation where
  text : Text
  notices : List Notice
  deriving DecidableEq

namespace Template

def faultText (fault : DisplayFault) : Text := "Template error: ".toList ++ fault.message

def evaluateElements (elements : List Element) (snapshot : Snapshot) : Evaluation :=
  match Display.elements snapshot elements with
  | .ok text => ⟨text, []⟩
  | .error (element, fault) =>
      ⟨faultText fault, [.elementFailed element.kindName fault.message]⟩

/-- What a template shows; an invalid one shows the message of its error. -/
def evaluate (template : Template) (snapshot : Snapshot) : Evaluation :=
  match template with
  | .valid elements => evaluateElements elements snapshot
  | .invalid error => ⟨error.message, []⟩

end Template
end Wallboard
