import Wallboard.Json.Reader
import Wallboard.Schema.Number
import Wallboard.Snapshot

namespace Wallboard

namespace Check

/-- The members of a value that should be a record; `kind` is the issue if it is not. -/
def record {α : Type} (kind : IssueKind) (check : List (Text × Json) → Check α) : Json → Check α
  | .object members => check members
  | _ => fail kind

def mapping {α β : Type} [DecidableEq α] (key : Text → Check α) (check : Json → Check β) :
    Json → Check (List (α × β))
  | .object members =>
      let entry (member : Text × Json) : Check (α × β) :=
        both (under (.member member.1) (under (.member "[key]".toList) (key member.1)))
          (under (.member member.1) (check member.2))
      (entries entry members).map (Keyed.putAll [])
  | _ => fail .dictType

def position (kind : IssueKind) : Json → Check Position :=
  record kind fun members => do
    let (x, y, z) ←
      both (optional ['x'] .zero double members) <|
        both (optional ['y'] .zero double members) (optional ['z'] .zero double members)
    .ok { x, y, z }

def tank (kind : IssueKind) : Json → Check Tank :=
  record kind fun members => do
    let (current, capacity) ←
      both (optional "current".toList 0 natural members)
        (optional "capacity".toList 0 natural members)
    .ok { current, capacity }

def gasSymbol (symbol : Text) : Check Gas :=
  match Gas.ofSymbol? symbol with
  | some gas => .ok gas
  | none => fail .enumeration

def snapshot (kind : IssueKind) : Json → Check Snapshot :=
  record kind fun members => do
    let (quantities, totalMassKg, powerRaw, position, gas) ←
      both (optional "quantities".toList [] (mapping .ok natural) members) <|
      both (optional "total_mass_kg".toList 0 natural members) <|
      both (optional "power_raw".toList 0 integer members) <|
      both (optional "position".toList {} (position kind) members)
        (optional "gas".toList [] (mapping gasSymbol (tank kind)) members)
    .ok { quantities, totalMassKg, powerRaw, position, gas }

end Check

namespace Snapshot

def positionJson (position : Position) : Json :=
  .object [(['x'], .double position.x), (['y'], .double position.y), (['z'], .double position.z)]

def tankJson (tank : Tank) : Json :=
  .object [("current".toList, .int tank.current), ("capacity".toList, .int tank.capacity)]

def toJson (snapshot : Snapshot) : Json :=
  .object
    [("quantities".toList, .object (snapshot.quantities.map fun entry => (entry.1, .int entry.2))),
     ("total_mass_kg".toList, .int snapshot.totalMassKg),
     ("power_raw".toList, .int snapshot.powerRaw),
     ("position".toList, positionJson snapshot.position),
     ("gas".toList,
       .object (snapshot.gas.map fun entry => (entry.1.symbol, tankJson entry.2)))]

/-- Integers in a snapshot file have at most as many characters as an integer may have digits. -/
def admitsNumeral (numeral : Integer.Numeral) : Bool :=
  numeral.digits.length + (if numeral.negative then 1 else 0) ≤ Integer.digitLimit

def depthLimit : Nat := 200

def ofText (text : Text) : Check Snapshot :=
  match Json.Reader.document admitsNumeral text with
  | .error _ => Check.fail .jsonInvalid
  | .ok found =>
      if found.depth ≤ depthLimit then Check.snapshot .modelType found
      else Check.fail .jsonInvalid

end Snapshot
end Wallboard
