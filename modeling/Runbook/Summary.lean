import Runbook.Engine
import Runbook.Text.Quoted

/-! # Summaries

The parts of a run in one line each, for whoever looks for a fault.
-/
namespace Runbook.Summary

/-- A name with fields between braces; two dots stand for fields that are not shown. -/
def fields (name : String) (shown : List (String × Text)) (all : Bool) : Text :=
  let parts := shown.map fun p => p.1.toList ++ ": ".toList ++ p.2
  let dots := if all then [] else ["..".toList]
  name.toList ++ " \x7b ".toList ++ Text.join ", ".toList (parts ++ dots) ++ " \x7d".toList

def transaction : Transaction → Text
  | .none => "NoTransaction".toList
  | .opened => "InTransaction".toList

def dryRun (calls : Nat) : Text := fields "DryRunBackend" [("calls", Text.ofNat calls)] false

def engine (s : Engine.State Nat) : Text :=
  fields "ExecutionEngine" [("backend", dryRun s.backend), ("state", transaction s.transaction),
    ("executed", Text.ofNat s.executed)] false

def resolver : Text :=
  fields "ReferenceResolver"
    [("fs", "SystemFileSystemOps".toList), ("log", Text.quote "<dyn Log>".toList)] true

def transport (url : Text) : Text := fields "UreqTransport" [("url", Text.quote url)] false

def session : Text := fields "PgSession" [] false

end Runbook.Summary
