import Runbook.Text.Lines

/-! # Run files

A run file is read line by line. A line that begins with two hyphens is a comment; lines are
numbered from one, comments included.
-/
namespace Runbook.RunFile

structure NumberedLine where
  number : Nat
  text : Text
  deriving DecidableEq, Repr

def isComment (line : Text) : Bool := Text.startsWith "--".toList line

/-- The lines that are no comments, when the first of all has the given number. -/
def linesFrom (number : Nat) : List Text → List NumberedLine
  | [] => []
  | l :: rest =>
    if isComment l then linesFrom (number + 1) rest
    else ⟨number, l⟩ :: linesFrom (number + 1) rest

def lines (text : Text) : List NumberedLine := linesFrom 1 (Text.lines text)

theorem linesFrom_append (n : Nat) (a b : List Text) :
    linesFrom n (a ++ b) = linesFrom n a ++ linesFrom (n + a.length) b := by
  induction a generalizing n with
  | nil => simp [linesFrom]
  | cons l a ih =>
    have h : n + 1 + a.length = n + (a.length + 1) := by omega
    by_cases hc : isComment l <;> simp [linesFrom, hc, ih, h]

end Runbook.RunFile
