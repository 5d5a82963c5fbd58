import Wallboard.Log.Record
import Wallboard.Settings

namespace Wallboard.Log

structure Console where
  configured : Bool := false
  threshold : Level := .warning
  handlers : List Level := []
  deriving DecidableEq

inductive LevelChoice
  | named (name : Text)
  | number (level : Level)
  deriving DecidableEq

def LevelChoice.level? : LevelChoice → Option Level
  | named name => Level.ofName? name
  | number level => some level

inductive ConsoleFault
  | unknownLevel
  | reservedName (name : Text)
  | line (fault : LineFault)

def ConsoleFault.message : ConsoleFault → Text
  | unknownLevel => "Unable to configure handler 'console'".toList
  | reservedName name =>
      Text.quoted ("Attempt to overwrite ".toList ++ Text.quoted name ++ " in LogRecord".toList)
  | line fault => fault.message

namespace Console

/-- The format of console lines, without the time that the console writes before each. -/
def format : LineFormat := ⟨"%(levelname)s | %(name)s | %(message)s".toList, LineFormat.defaultKeys⟩

def configure (console : Console) (settings : Settings) (choice : Option LevelChoice)
    (force : Bool) : Except ConsoleFault Console :=
  if console.configured && !force then .ok console
  else
    match (choice.getD (.named settings.logLevel)).level? with
    | none => .error .unknownLevel
    | some level => .ok { configured := true, threshold := level, handlers := [level] }

def reservedNames : List Text :=
  ["name", "msg", "args", "levelname", "levelno", "pathname", "filename", "module", "exc_info",
   "exc_text", "stack_info", "lineno", "funcName", "created", "msecs", "relativeCreated",
   "thread", "threadName", "processName", "process", "message", "asctime"].map String.toList

def admits (console : Console) (level : Level) : Bool :=
  0 < level && console.threshold ≤ level

def lines (console : Console) (record : Record) : Except ConsoleFault (List Text) :=
  if console.admits record.level then
    match record.extra.find? fun entry => reservedNames.contains entry.1 with
    | some entry => .error (.reservedName entry.1)
    | none =>
        (console.handlers.filter (· ≤ record.level)).mapM fun _ =>
          (format.line record).mapError .line
  else .ok []

end Console
end Wallboard.Log
