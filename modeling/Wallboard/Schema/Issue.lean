import Wallboard.Json.Basic

namespace Wallboard

inductive IssueKind
  | missing
  | stringType
  | modelType
  | modelAttributesType
  | dictType
  | enumeration
  | intType
  | intParsing
  | intParsingSize
  | intFromFloat
  | floatType
  | floatParsing
  | finiteNumber
  | greaterThanEqual
  | jsonInvalid
  deriving DecidableEq

def IssueKind.name : IssueKind → Text
  | missing => "missing".toList
  | stringType => "string_type".toList
  | modelType => "model_type".toList
  | modelAttributesType => "model_attributes_type".toList
  | dictType => "dict_type".toList
  | enumeration => "enum".toList
  | intType => "int_type".toList
  | intParsing => "int_parsing".toList
  | intParsingSize => "int_parsing_size".toList
  | intFromFloat => "int_from_float".toList
  | floatType => "float_type".toList
  | floatParsing => "float_parsing".toList
  | finiteNumber => "finite_number".toList
  | greaterThanEqual => "greater_than_equal".toList
  | jsonInvalid => "json_invalid".toList

inductive Step
  | member (name : Text)
  | offset (offset : Nat)
  deriving DecidableEq

structure Issue where
  kind : IssueKind
  location : List Step := []
  deriving DecidableEq

def Step.toJson : Step → Json
  | .member name => .string name
  | .offset place => .int place

def Issue.toJson (issue : Issue) : Json :=
  .object
    [("type".toList, .string issue.kind.name),
     ("loc".toList, .array (issue.location.map Step.toJson))]

def Step.text : Step → Text
  | .member name => name
  | .offset place => Integer.digits place

def Issue.text (issue : Issue) : Text :=
  Text.join ['.'] (issue.location.map Step.text) ++ ": ".toList ++ issue.kind.name

abbrev Check (α : Type) := Except (List Issue) α

namespace Check

variable {α β : Type}

def fail (kind : IssueKind) : Check α := .error [{ kind }]

def under (step : Step) : Check α → Check α
  | .ok value => .ok value
  | .error issues =>
      .error (issues.map fun issue => { issue with location := step :: issue.location })

def both : Check α → Check β → Check (α × β)
  | .ok left, .ok right => .ok (left, right)
  | .error issues, .ok _ => .error issues
  | .ok _, .error issues => .error issues
  | .error left, .error right => .error (left ++ right)

theorem under_eq_ok_iff {step : Step} {check : Check α} {found : α} :
    under step check = .ok found ↔ check = .ok found := by
  cases check <;> simp [under]

theorem both_eq_ok_iff {first : Check α} {second : Check β} {left : α} {right : β} :
    both first second = .ok (left, right) ↔ first = .ok left ∧ second = .ok right := by
  cases first <;> cases second <;> simp [both]

def optional (name : Text) (default : α) (check : Json → Check α) (members : List (Text × Json)) :
    Check α :=
  match Json.member? name members with
  | none => .ok default
  | some value => under (.member name) (check value)

def required (name : Text) (check : Json → Check α) (members : List (Text × Json)) : Check α :=
  match Json.member? name members with
  | none => under (.member name) (fail .missing)
  | some value => under (.member name) (check value)

def entries (check : Text × Json → Check β) : List (Text × Json) → Check (List β)
  | [] => .ok []
  | entry :: rest => (both (check entry) (entries check rest)).map fun found => found.1 :: found.2

def text : Json → Check Text
  | .string value => .ok value
  | _ => fail .stringType

end Check
end Wallboard
