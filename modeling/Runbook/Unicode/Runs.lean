import Runbook.Text.Basic

/-! # Tables of runs

A property of code points is written as runs: how many neighbouring code points share a value. Here
such tables are read and searched.
-/
namespace Runbook.Unicode

def digit36 (c : Char) : Nat :=
  if c.isDigit then c.toNat - '0'.toNat else c.toNat - 'a'.toNat + 10

def number36 (t : Text) : Nat := t.foldl (fun n c => n * 36 + digit36 c) 0

def rows (table : List String) : Text := table.flatMap String.toList

def readNumbersFrom (digits : Text) : Text → List Nat
  | [] => [number36 digits.reverse]
  | c :: t =>
    if c = ' ' then number36 digits.reverse :: readNumbersFrom [] t
    else readNumbersFrom (c :: digits) t

def readNumbers (t : Text) : List Nat := readNumbersFrom [] t

/-- Runs that are written as a label, which starts with a capital and has `width` letters, and a
number. -/
def readRuns (width : Nat) (t : Text) : List (Text × Nat) :=
  let close (word : Text) (runs : List (Text × Nat)) : List (Text × Nat) :=
    if word = [] then runs
    else (word.reverse.take width, number36 (word.reverse.drop width)) :: runs
  let (word, runs) := t.foldl (fun (s : Text × List (Text × Nat)) c =>
    if c.isUpper then ([c], close s.1 s.2) else (c :: s.1, s.2)) ([], [])
  (close word runs).reverse

def alternate (value : Bool) : List Nat → List (Bool × Nat)
  | [] => []
  | n :: rest => (value, n) :: alternate (!value) rest

/-- Where each run begins, in ascending order, with its value, and where the last one ends. -/
structure RunTable (α : Type) where
  entries : Array (Nat × α)
  limit : Nat

namespace RunTable

variable {α : Type}

def push (t : RunTable α) (run : α × Nat) : RunTable α :=
  ⟨t.entries.push (t.limit, run.1), t.limit + run.2⟩

def ofRuns (runs : List (α × Nat)) : RunTable α := runs.foldl push ⟨#[], 0⟩

/-- The last entry between `low` and `high` that begins at or before `code`, if the one at `low`
does; every round halves the distance. -/
def search (t : RunTable α) (code : Nat) : Nat → Nat → Nat → Option α
  | 0, low, _ => (t.entries[low]?).map (·.2)
  | rounds + 1, low, high =>
    if high ≤ low + 1 then (t.entries[low]?).map (·.2)
    else
      let middle := (low + high) / 2
      match t.entries[middle]? with
      | some e =>
        if e.1 ≤ code then search t code rounds middle high
        else search t code rounds low middle
      | none => none

def find? (t : RunTable α) (code : Nat) : Option α :=
  if code < t.limit then t.search code (t.entries.size.log2 + 1) 0 t.entries.size else none

end RunTable

end Runbook.Unicode
