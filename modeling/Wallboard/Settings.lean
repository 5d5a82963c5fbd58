import Wallboard.Keyed
import Wallboard.Text.Blank
import Wallboard.Text.Case

namespace Wallboard

abbrev Environment := List (Text × Text)

namespace Environment

def filled? (name : Text) (environment : Environment) : Option Text :=
  (Keyed.find? name environment).bind fun value =>
    let candidate := Text.strip value
    if candidate.isEmpty then none else some candidate

end Environment

/-- `boardPath` is nothing if the board is not to be kept in a file. -/
structure Settings where
  marker : Text := "#infoscreen".toList
  boardPath : Option Text := some "./tmp/panels.json".toList
  logLevel : Text := "INFO".toList
  deriving DecidableEq

namespace Settings

def markerVariable : Text := "INFOSCREENS_MARKER".toList

def boardPathVariable : Text := "INFOSCREENS_BOARD_PATH".toList

def logLevelVariable : Text := "LOG_LEVEL".toList

/-- The settings of an environment. A blank variable counts as not set, but a blank board path
turns the file of the board off. -/
def ofEnvironment (environment : Environment) : Settings :=
  let defaults : Settings := {}
  { marker := (environment.filled? markerVariable).getD defaults.marker
    boardPath :=
      if Keyed.contains boardPathVariable environment then environment.filled? boardPathVariable
      else defaults.boardPath
    logLevel := ((environment.filled? logLevelVariable).map Text.upper).getD defaults.logLevel }

end Settings
end Wallboard
