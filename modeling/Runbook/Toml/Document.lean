import Runbook.Toml.Reader

/-! # TOML documents

A document is read line by line: headers begin tables, and keys add to the table that was begun
last.
-/
namespace Runbook.Toml

def readPair (d : Draft) (t : Text) : Except Fault (Draft × Text) := do
  let (parts, t) ← readKey t
  let t ← afterKey t
  let (v, t) ← readValue (2 * t.length + 2) depthLimit t
  let t ← finishLine t
  pure (← d.define parts.dropLast (parts.getLast?.getD []) v, t)

def readHeader (d : Draft) (t : Text) : Except Fault (Draft × Text) := within "table header" do
  let (repeated, t) ← match t with
    | [] => .error .absent
    | '[' :: t => pure (true, t)
    | t => pure (false, t)
  let brackets := if repeated then "]]" else "]"
  let (path, t) ← readKey t
  let t ← expecting [Text.ticked ['.'], Text.ticked brackets.toList] (after brackets t)
  let t ← finishLine t
  pure (← if repeated then d.openRepeated path else d.openTable path, t)

/-- The rest of a document. Every round reads a line, so the length of the text is fuel enough. -/
def readLines : Nat → Draft → Text → Except Fault Entries
  | 0, _, _ => .error .absent
  | fuel + 1, d, t =>
    match skipGaps false t with
    | none => .error .absent
    | some [] => d.close
    | some ('\r' :: _) => .error .absent
    | some (c :: rest) => do
      let (d, rest) ← if c = '[' then readHeader d rest else readPair d (c :: rest)
      readLines fuel d rest

def byteOrderMark : Char := '\uFEFF'

def parse (t : Text) : Except Fault Entries :=
  let t := match t with
    | c :: rest => if c = byteOrderMark then rest else t
    | [] => []
  readLines (t.length + 1) .empty t

end Runbook.Toml
