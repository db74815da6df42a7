import Runbook.Path
import Runbook.Settings.Error

/-! # Errors that end a run

Each error has one message. Errors of the file system also have that system's own words as a cause,
although the message holds them already.
-/
namespace Runbook

inductive RunError where
  | fileNotFound (path : Path)
  | parse (line : Nat) (message : Text)
  | configuration (message : Text)
  | backend (directive diagnostic : Text)
  | rollback (directive diagnostic second : Text)
  | connect (target reason : Text)
  | io (path : Path) (cause : Text)
  | settings (e : SettingsError)
  deriving DecidableEq, Repr

namespace RunError

def message : RunError → Text
  | .fileNotFound path => "File ".toList ++ path.display ++ " does not exist".toList
  | .parse line m => "Parse error on line ".toList ++ Text.ofNat line ++ ": ".toList ++ m
  | .configuration m => "Configuration error: ".toList ++ m
  | .backend directive diagnostic => directive ++ " failed: ".toList ++ diagnostic
  | .rollback directive diagnostic second =>
    directive ++ " failed: ".toList ++ diagnostic ++ "; rollback also failed: ".toList ++ second
  | .connect target reason =>
    "Could not connect to the ".toList ++ target ++ " backend: ".toList ++ reason
  | .io path cause => "IO error reading ".toList ++ path.display ++ ": ".toList ++ cause
  | .settings e => e.message

def causes : RunError → List Text
  | .io _ cause => [cause]
  | .settings e => e.causes
  | _ => []

def chain (e : RunError) : Text := Text.join ": ".toList (e.message :: e.causes)

end RunError

end Runbook
