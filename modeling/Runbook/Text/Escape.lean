import Runbook.Text.Basic

/-! # Terminal escapes

An escape sequence is the character U+001B and one more character, or U+001B, an opening bracket
and everything up to the first character from `@` to `~`. A sequence may be cut short by the end of
the text.
-/
namespace Runbook.Text

def escape : Char := '\x1b'

/-- Whether a character ends a sequence that an opening bracket began. -/
def isFinal (c : Char) : Bool := '@' ≤ c && c ≤ '~'

inductive EscapeState where
  | plain
  | escaped
  | bracketed
  deriving DecidableEq, Repr

namespace EscapeState

def next : EscapeState → Char → EscapeState
  | .plain, c => if c = escape then .escaped else .plain
  | .escaped, c => if c = '[' then .bracketed else .plain
  | .bracketed, c => if isFinal c then .plain else .bracketed

/-- Whether a character read in this state belongs to the text rather than to a sequence. -/
def keeps : EscapeState → Char → Bool
  | .plain, c => c != escape
  | _, _ => false

end EscapeState

/-- What is left of a text that is read from a given state. -/
def stripFrom (s : EscapeState) : Text → Text
  | [] => []
  | c :: t => if s.keeps c then c :: stripFrom (s.next c) t else stripFrom (s.next c) t

def stripEscapes (t : Text) : Text := stripFrom .plain t

end Runbook.Text
