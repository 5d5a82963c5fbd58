import Wallboard.Keyed
import Wallboard.Number.Integer

namespace Wallboard.Log

abbrev Level := Int

namespace Level

def debug : Level := 10

def info : Level := 20

def warning : Level := 30

def error : Level := 40

def critical : Level := 50

def named : List (Text × Level) :=
  [("CRITICAL".toList, critical), ("ERROR".toList, error), ("WARNING".toList, warning),
   ("INFO".toList, info), ("DEBUG".toList, debug), ("NOTSET".toList, 0)]

def synonyms : List (Text × Level) := [("FATAL".toList, critical), ("WARN".toList, warning)]

def ofName? (name : Text) : Option Level := Keyed.find? name (named ++ synonyms)

def name (level : Level) : Text :=
  match named.find? fun entry => entry.2 == level with
  | some entry => entry.1
  | none => "Level ".toList ++ Integer.text level

end Level
end Wallboard.Log
