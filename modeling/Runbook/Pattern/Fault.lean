import Runbook.Text.Lines

/-! # Faults in patterns

A fault is shown below the line of the pattern that it is in, with marks under the characters that
it is about. Lines have numbers if there are several.
-/
namespace Runbook.Pattern

/-- A part of a pattern, given by the text from its beginning on and the text after it. -/
structure Span where
  start : Text
  stop : Text
  deriving DecidableEq, Repr

/-- What is wrong with a part of a pattern, and the earlier part that this one repeats. -/
structure Fault where
  kind : String
  span : Span
  earlier : Option Span
  deriving DecidableEq, Repr

namespace Fault

/-- Line and column of the text that is left of a pattern, both counted from one. -/
def position (pattern left : Text) : Nat × Nat :=
  let before := (pattern.take (pattern.length - left.length)).reverse
  (before.count '\n' + 1, (before.takeWhile (· ≠ '\n')).length + 1)

def marks (columns : List (Nat × Nat)) : Text :=
  columns.foldl (fun t (first, last) =>
    t ++ List.replicate (first - 1 - t.length) ' ' ++ List.replicate (max 1 (last - first)) '^') []

/-- The lines of a pattern, each with the marks of the spans that lie within it. -/
def markedLines (pattern : Text) (spans : List ((Nat × Nat) × (Nat × Nat))) : List Text :=
  let count := (Text.lines pattern).length + if pattern.getLast? = some '\n' then 1 else 0
  let width := (Text.ofNat count).length
  (Text.lines pattern).zipIdx.flatMap fun (line, i) =>
    let number := Text.ofNat (i + 1)
    let margin := if count ≤ 1 then List.replicate 4 ' '
      else List.replicate (width - number.length) ' ' ++ number ++ ": ".toList
    let here := spans.filter fun (first, last) => first.1 = i + 1 ∧ last.1 = i + 1
    (margin ++ line) :: if here.isEmpty then [] else
      [List.replicate margin.length ' ' ++ marks (here.map fun (first, last) => (first.2, last.2))]

def range (first last : Nat × Nat) : Text :=
  let place (line column : Nat) : Text :=
    "line ".toList ++ Text.ofNat line ++ " (column ".toList ++ Text.ofNat column ++ ")".toList
  "on ".toList ++ place first.1 first.2 ++ " through ".toList ++ place last.1 (last.2 - 1)

def message (pattern : Text) (e : Fault) : Text :=
  let spans := (e.earlier.toList ++ [e.span]).map fun s =>
    (position pattern s.start, position pattern s.stop)
  let divider := List.replicate 79 '~'
  let shown := markedLines pattern spans
  let body := if pattern.contains '\n' then
      let long := spans.filter fun (first, last) => first.1 ≠ last.1
      divider :: shown ++ [divider] ++ long.map fun (first, last) => range first last
    else shown
  Text.join ['\n'] ("regex parse error:".toList :: body ++ ["error: ".toList ++ e.kind.toList])

end Fault

end Runbook.Pattern
