import Wallboard.Json.Basic
import Wallboard.Text.Lines
import Wallboard.Text.Plain

/-!
How the answers of the service are shown on a terminal. The members of an answer are looked up as
they are printed, so that an answer of the wrong shape is shown up to its first fault.
-/
namespace Wallboard.Command

inductive ShapeFault
  | notAnObject (found : Json)
  | notAText (found : Json)
  | notCountable (found : Json)

def ShapeFault.message : ShapeFault → Text
  | notAnObject found => '\'' :: found.kindName ++ "' object has no attribute 'get'".toList
  | notAText found => '\'' :: found.kindName ++ "' object has no attribute 'splitlines'".toList
  | notCountable found =>
      "object of type '".toList ++ found.kindName ++ "' has no len()".toList

structure Preview where
  output : Text
  fault : Option ShapeFault := none

namespace Preview

def line (text : Text) : Text := Text.plain text ++ ['\n']

def andThen (first second : Preview) : Preview :=
  match first.fault with
  | some _ => first
  | none => { second with output := first.output ++ second.output }

def ofLine (text : Text) : Preview := { output := line text }

def ofFault (fault : ShapeFault) : Preview := { output := [], fault := some fault }

def blockText (text : Text) : Text :=
  let found := Text.lines text
  (if found.isEmpty then [[]] else found).flatMap fun content =>
    line (' ' :: ' ' :: '|' :: ' ' :: content)

def block : Json → Preview
  | .string text => { output := blockText text }
  | found => ofFault (.notAText found)

/-- The block of the text of an answer, empty if it is missing or counts as false. -/
def textBlock (members : List (Text × Json)) : Preview :=
  match Json.member? "text".toList members with
  | none => block (.string [])
  | some found => if found.isTruthy then block found else block (.string [])

def isTruthyMember (name : Text) (members : List (Text × Json)) : Bool :=
  (Json.member? name members).any Json.isTruthy

def shownMember (name : Text) (default : Json) (members : List (Text × Json)) : Text :=
  ((Json.member? name members).getD default).shown

def rendering : Json → Preview
  | .object members =>
      let heading :=
        if isTruthyMember "valid".toList members then "Rendered Output".toList
        else
          "Template invalid (".toList ++ shownMember "error".toList .null members ++ [')']
      (ofLine heading).andThen (textBlock members)
  | found => ofFault (.notAnObject found)

def stored : Json → Preview
  | .object members =>
      ofLine ("Panel ".toList ++ shownMember "device_id".toList .null members ++ " updated.".toList)
  | found => ofFault (.notAnObject found)

def panel : Json → Preview
  | .object members =>
      let state := if isTruthyMember "bound".toList members then "bound".toList else "unbound".toList
      let heading :=
        shownMember "device_id".toList .null members ++ ' ' :: '(' :: state ++ [')']
      (ofLine []).andThen ((ofLine heading).andThen (textBlock members))
  | found => (ofLine []).andThen (ofFault (.notAnObject found))

/-- What a value is made of: items, the names of members or characters. -/
def parts? : Json → Option (List Json)
  | .array items => some items
  | .object members => some (members.map fun entry => .string entry.1)
  | .string text => some (text.map fun char => .string [char])
  | _ => none

def panelList (members : List (Text × Json)) : Json :=
  match Json.member? "panels".toList members with
  | none => .array []
  | some found => if found.isTruthy then found else .array []

def refresh : Json → Preview
  | .object members =>
      let found := panelList members
      match parts? found with
      | none => ofFault (.notCountable found)
      | some panels =>
          let heading :=
            "Refreshed ".toList ++ shownMember "bound".toList (.int 0) members ++ " of ".toList ++
              Integer.digits panels.length ++ " panels".toList
          panels.foldl (fun shown next => shown.andThen (panel next)) (ofLine heading)
  | found => ofFault (.notAnObject found)

end Preview
end Wallboard.Command
