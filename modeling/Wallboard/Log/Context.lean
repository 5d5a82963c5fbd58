import Wallboard.Text.Basic

namespace Wallboard.Log

/-- A line and, after a bar, the named values of its context, if there are any. -/
def withContext (line : Text) (context : List (Text × Text)) : Text :=
  if context.isEmpty then line
  else
    line ++ " | ".toList ++
      Text.join [' '] (context.map fun entry => entry.1 ++ '=' :: entry.2)

end Wallboard.Log
