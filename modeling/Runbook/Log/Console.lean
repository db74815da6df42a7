import Runbook.Log.Event
import Runbook.Text.Escape

/-! # Events on a terminal

Every event is one line, with a coloured mark that tells its kind. Warnings and errors go to the
error stream.
-/
namespace Runbook.Console

def styled (style : String) (t : Text) : Text :=
  Text.escape :: '[' :: style.toList ++ 'm' :: t ++ Text.escape :: "[0m".toList

inductive Stream where
  | output
  | error
  deriving DecidableEq, Repr

def stream : Event → Stream
  | .warn _ => .error
  | .error _ => .error
  | _ => .output

def line : Event → Text
  | .error m => styled "31" "ERROR".toList ++ ' ' :: m
  | .warn m => styled "33" "WARN".toList ++ ' ' :: ' ' :: m
  | .stage m => styled "1;34" "==>".toList ++ ' ' :: styled "1" m
  | .directive m _ => ' ' :: ' ' :: styled "36" "->".toList ++ ' ' :: m
  | .dryRun m => ' ' :: ' ' :: styled "33" "[DRY RUN]".toList ++ ' ' :: m
  | .info m => ' ' :: ' ' :: m
  | .debug m => ' ' :: ' ' :: styled "2" m
  | .detail _ m => ' ' :: ' ' :: styled "2" m

/-- Whether an event is shown at a debug level: debug messages only if it is not zero. -/
def isShown (level : Nat) (e : Event) : Bool :=
  match e with
  | .debug _ => 0 < level
  | .detail _ _ => 0 < level && e.counts level
  | _ => true

def transcript (level : Nat) (s : Stream) (events : List Event) : Text :=
  (events.filter fun e => isShown level e && stream e == s).flatMap fun e => line e ++ ['\n']

end Runbook.Console
