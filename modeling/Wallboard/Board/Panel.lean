import Wallboard.Schema.Issue

namespace Wallboard

structure Panel where
  device : Text
  customData : Text := []
  text : Text := []
  deriving DecidableEq

namespace Panel

def toJson (panel : Panel) : Json :=
  .object
    [("custom_data".toList, .string panel.customData),
     ("device_id".toList, .string panel.device),
     ("text".toList, .string panel.text)]

def ofJson : Json → Check Panel
  | .object members => do
      let (device, customData, text) ←
        Check.both (Check.required "device_id".toList Check.text members) <|
          Check.both (Check.optional "custom_data".toList [] Check.text members)
            (Check.optional "text".toList [] Check.text members)
      .ok { device, customData, text }
  | _ => Check.fail .modelType

end Panel

/-- Panels by the device they are kept for, in the order in which they came. -/
abbrev Panels := List (Text × Panel)

namespace Panels

/-- The panels after new custom data for a device, whose text stays. -/
def assign (panels : Panels) (device customData : Text) : Panel × Panels :=
  let text := ((Keyed.find? device panels).map (·.text)).getD []
  let panel : Panel := { device, customData, text }
  (panel, Keyed.put device panel panels)

def write? (panels : Panels) (device text : Text) : Option Panels :=
  (Keyed.find? device panels).map fun panel => Keyed.put device { panel with text } panels

def remove? (panels : Panels) (device : Text) : Option Panels :=
  if Keyed.contains device panels then some (Keyed.erase device panels) else none

def customData (panels : Panels) : List (Text × Text) :=
  panels.map fun entry => (entry.1, entry.2.customData)

def scan (panels : Panels) : List Panel := panels.map (·.2)

end Panels
end Wallboard
