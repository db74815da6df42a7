import Runbook.Text.Basic

/-! # Lines

A line ends at a line feed, and a carriage return directly before that line feed belongs to the
line end. A text that ends with a line end has no further, empty line; a carriage return anywhere
else is an ordinary character.
-/
namespace Runbook.Text

def dropReturn (line : Text) : Text := (before? ['\r'] line).getD line

/-- The lines of a text; `line` is what is already read of the first one, reversed. -/
def linesFrom (line : Text) : Text → List Text
  | [] => if line = [] then [] else [line.reverse]
  | '\n' :: t => dropReturn line.reverse :: linesFrom [] t
  | c :: t => linesFrom (c :: line) t

def lines (t : Text) : List Text := linesFrom [] t

/-- The first line, which of an empty text is empty. -/
def firstLine (t : Text) : Text := (lines t).headD []

end Runbook.Text
