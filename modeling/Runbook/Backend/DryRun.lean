import Runbook.Backend.Basic

/-! # Dry runs

A backend that touches nothing: it accepts every call, reports it, and counts.
-/
namespace Runbook.Backend

def dryRunVerdict : Verdict := .ok (.obj [("dry_run", .bool true)])

def origin (d : Directive) : Text :=
  match d.source with
  | some p => " (from ".toList ++ p.display ++ ")".toList
  | none => []

/-- What is reported instead of a call. -/
def dryRunReport : Call → Text
  | .execute d => "would send ".toList ++ d.kind.tag ++ " directive".toList ++ origin d
  | .control c => "would issue ".toList ++ c.statement

/-- The number of calls so far is the state. -/
def dryRun : Backend Nat where
  execute d calls := ⟨dryRunVerdict, calls + 1, [.log (.dryRun (dryRunReport (.execute d)))]⟩
  transaction c calls := ⟨dryRunVerdict, calls + 1, [.log (.dryRun (dryRunReport (.control c)))]⟩

end Runbook.Backend
