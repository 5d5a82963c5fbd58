import Wallboard.Keyed
import Wallboard.Number.Shortest
import Wallboard.Text.Quoted

/-!
JSON values with exact numbers. The members of an object stand in document order, and a name may
occur more than once until `settled` keeps the last value of each.
-/
namespace Wallboard

inductive Json
  | null
  | bool (value : Bool)
  | int (value : Int)
  | double (value : Binary64)
  | string (value : Text)
  | array (items : List Json)
  | object (members : List (Text × Json))

namespace Json

def member? (name : Text) (members : List (Text × Json)) : Option Json :=
  (members.reverse.find? fun entry => decide (entry.1 = name)).map (·.2)

def isTruthy : Json → Bool
  | null => false
  | bool value => value
  | int value => value != 0
  | double value => value.magnitude != 0
  | string value => !value.isEmpty
  | array items => !items.isEmpty
  | object members => !members.isEmpty

mutual

def settled : Json → Json
  | array items => array (settledItems items)
  | object members => object (Keyed.putAll [] (settledMembers members))
  | value => value

def settledItems : List Json → List Json
  | [] => []
  | item :: rest => settled item :: settledItems rest

def settledMembers : List (Text × Json) → List (Text × Json)
  | [] => []
  | (name, value) :: rest => (name, settled value) :: settledMembers rest

end

def kindName : Json → Text
  | null => "NoneType".toList
  | bool _ => "bool".toList
  | int _ => "int".toList
  | double _ => "float".toList
  | string _ => "str".toList
  | array _ => "list".toList
  | object _ => "dict".toList

mutual

def isPrintable : Json → Bool
  | int value => (Integer.print? value).isSome
  | array items => areItemsPrintable items
  | object members => areMembersPrintable members
  | _ => true

def areItemsPrintable : List Json → Bool
  | [] => true
  | item :: rest => isPrintable item && areItemsPrintable rest

def areMembersPrintable : List (Text × Json) → Bool
  | [] => true
  | (_, value) :: rest => isPrintable value && areMembersPrintable rest

end

mutual

def depth : Json → Nat
  | array items => if items.isEmpty then 0 else depthOfItems items + 1
  | object members => if members.isEmpty then 0 else depthOfMembers members + 1
  | _ => 0

def depthOfItems : List Json → Nat
  | [] => 0
  | item :: rest => max (depth item) (depthOfItems rest)

def depthOfMembers : List (Text × Json) → Nat
  | [] => 0
  | (_, value) :: rest => max (depth value) (depthOfMembers rest)

end

mutual

/-- The form of a value inside another one when it is shown to a reader. -/
def shownWithin : Json → Text
  | null => "None".toList
  | bool value => if value then "True".toList else "False".toList
  | int value => Integer.text value
  | double value => value.text
  | string value => Text.quoted value
  | array items => '[' :: Text.join ", ".toList (shownItems items) ++ [']']
  | object members => '{' :: Text.join ", ".toList (shownMembers members) ++ ['}']

def shownItems : List Json → List Text
  | [] => []
  | item :: rest => shownWithin item :: shownItems rest

def shownMembers : List (Text × Json) → List Text
  | [] => []
  | (name, value) :: rest =>
      (Text.quoted name ++ ": ".toList ++ shownWithin value) :: shownMembers rest

end

/-- The text of a value as shown to a reader; a string stands for itself. -/
def shown : Json → Text
  | string value => value
  | value => shownWithin value

end Json
end Wallboard
