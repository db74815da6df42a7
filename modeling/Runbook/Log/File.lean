import Runbook.Log.Event
import Runbook.Text.Escape

/-! # Log files

A log file begins with a header that tells what the run was given. After it every event is a line
with the time of day, a mark for its kind, and its message without terminal escapes.
-/
namespace Runbook.LogFile

structure Header where
  config : Path
  runFile : Path
  debugLevel : Nat
  dryRun : Bool
  deriving DecidableEq, Repr

def rule : Text := List.replicate 42 '='

def versionText : Text := "apipush dev-0.1.0".toList

def Header.text (h : Header) (moment : Text) : Text :=
  let mode := if h.dryRun then ", dry run".toList else []
  [rule, versionText ++ ' ' :: moment, "config:   ".toList ++ h.config.display,
    "run file: ".toList ++ h.runFile.display,
    "debug:    ".toList ++ Text.ofNat h.debugLevel ++ mode, rule].flatMap fun l => l ++ ['\n']

def mark : Event → Text
  | .stage _ => "==> ".toList
  | .directive _ _ => "--> ".toList
  | .dryRun _ => "    [dry run] ".toList
  | .info _ => "    ".toList
  | .debug _ => "    [debug] ".toList
  | .detail _ _ => "    [debug] ".toList
  | .warn _ => "    [warn] ".toList
  | .error _ => "    [error] ".toList

def origin : Event → Text
  | .directive _ (some source) => "  (".toList ++ source.display ++ ")".toList
  | _ => []

def line (time : Text) (e : Event) : Text :=
  '[' :: time ++ "] ".toList ++ mark e ++ Text.stripEscapes e.message ++ origin e

/-- The lines of the events that count at a debug level, at one time of day. -/
def lines (level : Nat) (time : Text) (events : List Event) : Text :=
  (events.filter (Event.counts level)).flatMap fun e => line time e ++ ['\n']

end Runbook.LogFile
