import Runbook.Path
import Runbook.Text.Number

/-! # Environment

What a command takes from the variables of its environment: the width of the terminal and the place
of the log file.
-/
namespace Runbook.Command

abbrev Environment := List (Text × Text)

namespace Environment

def get? (env : Environment) (name : String) : Option Text :=
  (env.find? fun v => v.1 == name.toList).map (·.2)

def defaultColumns : Nat := 80

def columnsLimit : Nat := Nat.pow 2 64

/-- The width of the terminal, which is not zero. -/
def columns (env : Environment) : Nat :=
  (((env.get? "COLUMNS").bind Text.unsigned?).filter fun n => 0 < n && n < columnsLimit).getD
    defaultColumns

def cacheDirectory (env : Environment) : Path :=
  match env.get? "XDG_CACHE_HOME" with
  | some dir => .ofText dir
  | none =>
    let home := ((env.get? "HOME").or (env.get? "USERPROFILE")).getD ".".toList
    (Path.ofText home).append (.ofText ".cache".toList)

def logDirectory (env : Environment) : Path := env.cacheDirectory.append (.ofText "apipush".toList)

def logFile (env : Environment) : Path := env.logDirectory.append (.ofText "apipush.log".toList)

end Environment

end Runbook.Command
