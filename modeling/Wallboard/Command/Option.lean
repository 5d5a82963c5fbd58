import Wallboard.Text.Basic

/-!
Options among the arguments of a command. A long option has a name of its own and may carry its
value after an equals sign; short options are single letters, which may stand together and may be
followed by a value at once. Two dashes end the options.
-/
namespace Wallboard.Command

inductive Stop
  | usage
  | help
  deriving DecidableEq

structure Choice where
  long : Text
  short : Option Char := none
  takesValue : Bool := true
  deriving DecidableEq

structure Scan where
  options : List (Choice × Text) := []
  operands : List Text := []

namespace Scan

def value? (choice : Choice) (scan : Scan) : Option Text :=
  (scan.options.reverse.find? fun entry => decide (entry.1 = choice)).map (·.2)

def holds (choice : Choice) (scan : Scan) : Bool := (scan.value? choice).isSome

def addOption (choice : Choice) (value : Text) (scan : Scan) : Scan :=
  { scan with options := (choice, value) :: scan.options }

def addOperand (operand : Text) (scan : Scan) : Scan :=
  { scan with operands := operand :: scan.operands }

def addAll (found : List (Choice × Text)) (scan : Scan) : Scan :=
  { scan with options := found ++ scan.options }

inductive Cluster
  | complete (found : List (Choice × Text))
  | needsValue (found : List (Choice × Text)) (choice : Choice)

/-- The options of the letters after a single dash. The first one that takes a value takes the
rest of the letters, or the next argument if there are none. -/
def cluster (choices : List Choice) : Text → Except Stop Cluster
  | [] => .ok (.complete [])
  | letter :: rest =>
      match choices.find? fun choice => decide (choice.short = some letter) with
      | none => .error .usage
      | some choice =>
          if choice.takesValue then
            if rest.isEmpty then .ok (.needsValue [] choice) else .ok (.complete [(choice, rest)])
          else
            (cluster choices rest).map fun
              | .complete found => .complete ((choice, []) :: found)
              | .needsValue found last => .needsValue ((choice, []) :: found) last

def long? (choices : List Choice) (argument : Text) : Option (Choice × Option Text) :=
  let (name, value) := Text.cut '=' argument
  (choices.find? fun choice => decide (choice.long = name)).map fun choice => (choice, value)

def option (choices : List Choice) (argument : Text) : Except Stop Cluster :=
  match long? choices argument with
  | some (choice, some value) =>
      if choice.takesValue then .ok (.complete [(choice, value)]) else .error .usage
  | some (choice, none) =>
      if choice.takesValue then .ok (.needsValue [] choice) else .ok (.complete [(choice, [])])
  | none =>
      if Text.startsWith argument ['-', '-'] then .error .usage
      else cluster choices (argument.drop 1)

def isOption (argument : Text) : Bool := argument.head? = some '-' && argument.length ≠ 1

/-- Reads the arguments. If they are not `mixed`, the first operand ends the options. -/
def arguments (choices : List Choice) (mixed : Bool) : List Text → Except Stop Scan
  | [] => .ok {}
  | argument :: rest =>
      if argument = "--".toList then .ok { operands := rest }
      else if isOption argument then
        match option choices argument, rest with
        | .error stop, _ => .error stop
        | .ok (.complete found), rest => (arguments choices mixed rest).map (addAll found)
        | .ok (.needsValue _ _), [] => .error .usage
        | .ok (.needsValue found choice), value :: rest =>
            (arguments choices mixed rest).map fun scan =>
              addAll found (scan.addOption choice value)
      else if mixed then (arguments choices mixed rest).map (addOperand argument)
      else .ok { operands := argument :: rest }

end Scan
end Wallboard.Command
