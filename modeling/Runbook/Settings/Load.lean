import Runbook.FileSystem
import Runbook.Log.Event
import Runbook.Settings.Reader

/-! # Loading settings -/
namespace Runbook.Settings

def ofFile (fs : FileSystem) (path : Path) : Except SettingsError Settings :=
  match fs.read path with
  | .error e => .error (.unreadable path.display e.detail)
  | .ok text => parse text path

def report (s : Settings) : Event :=
  .debug (s.target.name ++ " backend configured in ".toList ++ s.path.display)

def warningReports (ws : List Warning) : List Event :=
  if ws = [] then []
  else
    .warn ("found ".toList ++ Text.ofNat ws.length ++ " configuration warning(s):".toList) ::
      ws.map fun w => .warn ("  ".toList ++ w.text)

/-- The settings in a file, and what is reported about them. -/
def load (fs : FileSystem) (path : Path) : Except SettingsError Settings × List Event :=
  match ofFile fs path with
  | .error e => (.error e, [])
  | .ok s => (.ok s, report s :: warningReports (warnings s.target))

end Runbook.Settings
