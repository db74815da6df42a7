import Runbook.Text.Basic

/-! # Settings that cannot be used -/
namespace Runbook

structure SyntaxFault where
  file : Text
  message : Text
  deriving DecidableEq, Repr

/-- Why a file gives no settings: it cannot be read, it is no TOML, it has the wrong shape, it does
not describe exactly one target, or a value in it is of no use. -/
inductive SettingsError where
  | unreadable (path cause : Text)
  | notToml (fault : SyntaxFault)
  | malformed (file message : Text)
  | missingTarget
  | ambiguousTarget
  | invalid (field message : Text)
  deriving DecidableEq, Repr

namespace SettingsError

def invalidSyntax (file message : Text) : Text :=
  "Invalid TOML syntax in ".toList ++ file ++ ": ".toList ++ message

def message : SettingsError → Text
  | .unreadable path cause =>
    "IO error reading config file ".toList ++ path ++ ": ".toList ++ cause
  | .notToml ⟨file, m⟩ => invalidSyntax file m
  | .malformed file m => invalidSyntax file m
  | .missingTarget => "Missing backend: expected a [database] or [api] table".toList
  | .ambiguousTarget =>
    "Ambiguous backend: only one of [database] or [api] may be configured".toList
  | .invalid field m => "Invalid value for '".toList ++ field ++ "': ".toList ++ m

def causes : SettingsError → List Text
  | .unreadable _ cause => [cause]
  | _ => []

end SettingsError

end Runbook
