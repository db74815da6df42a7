import Runbook.Path

/-! # Log events

What a run reports while it goes on. An event says what kind of message it is; how it looks, and
whether it is shown, is for whoever receives it.
-/
namespace Runbook

/-- A message of one of the kinds. A directive that is about to be sent comes with the file it was
read from, and a detail with the least debug level at which it counts. -/
inductive Event where
  | stage (message : Text)
  | info (message : Text)
  | debug (message : Text)
  | warn (message : Text)
  | error (message : Text)
  | dryRun (message : Text)
  | directive (message : Text) (source : Option Path)
  | detail (level : Nat) (message : Text)
  deriving DecidableEq, Repr

namespace Event

def message : Event → Text
  | .stage m => m
  | .info m => m
  | .debug m => m
  | .warn m => m
  | .error m => m
  | .dryRun m => m
  | .directive m _ => m
  | .detail _ m => m

def counts (level : Nat) : Event → Bool
  | .detail least _ => least ≤ level
  | _ => true

end Event

end Runbook
