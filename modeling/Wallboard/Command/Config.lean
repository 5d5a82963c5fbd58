import Wallboard.Number.Reading
import Wallboard.Settings

namespace Wallboard.Command

structure Config where
  baseUrl : Text
  timeout : Binary64
  deriving DecidableEq

namespace Config

def defaultBaseUrl : Text := "http://localhost:8000".toList

def defaultTimeout : Binary64 := .ofInt 30

def baseUrlVariable : Text := "API_BASE_URL".toList

def timeoutVariable : Text := "CLI_TIMEOUT".toList

def nonEmpty? (text : Text) : Option Text := if text.isEmpty then none else some text

def timeout? (environment : Environment) : Option Binary64 := do
  let text ← environment.filled? timeoutVariable
  let seconds ← Binary64.readLoose? text
  if seconds.isPositive then some seconds else none

/-- The configuration for the given options. Slashes at the end of the base URL are dropped. A
timeout that is given as an option is taken as it is. -/
def load (environment : Environment) (baseUrl : Option Text) (timeout : Option Binary64) :
    Config :=
  let url :=
    ((baseUrl.bind nonEmpty?).orElse fun _ =>
      (Keyed.find? baseUrlVariable environment).bind nonEmpty?).getD defaultBaseUrl
  { baseUrl := Text.dropTrailing '/' url
    timeout := timeout.getD ((timeout? environment).getD defaultTimeout) }

end Config
end Wallboard.Command
