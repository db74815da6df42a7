import Runbook.Decimal.Binary64
import Runbook.Toml.Fault

/-! # TOML tables

The entries of a table stand in the order in which they were first mentioned. How a table came to be
decides what may still be added to it: a table with a header of its own is closed to dotted keys, a
table that only headers of its subtables or dotted keys made is not, and an inline table is closed
to everything.
-/
namespace Runbook.Toml

inductive Number where
  | finite (x : Decimal.Binary64)
  | infinite (negative : Bool)
  | undefined
  deriving DecidableEq, Repr

/-- How a table came to be: by a header, by the header of a table below it, by a dotted key, or
inline. -/
inductive Origin where
  | header
  | passage
  | dotted
  | inlined
  deriving DecidableEq, Repr

inductive Value where
  | string (t : Text)
  | integer (n : Int)
  | float (x : Number)
  | boolean (b : Bool)
  | dateTime
  | array (items : List Value)
  | table (origin : Origin) (entries : List (Text × Value))
  | tables (items : List (List (Text × Value)))
  deriving Repr, Inhabited

abbrev Entries := List (Text × Value)

def Value.kind : Value → String
  | .string _ => "string"
  | .integer _ => "integer"
  | .float _ => "float"
  | .boolean _ => "boolean"
  | .dateTime => "datetime"
  | .array _ => "array"
  | .table _ _ => "inline table"
  | .tables _ => "array of tables"

inductive Route where
  | header
  | key
  | inlineKey
  deriving DecidableEq

namespace Entries

def get? (key : Text) (t : Entries) : Option Value := (t.find? fun e => e.1 == key).map (·.2)

def replace (key : Text) (v : Value) (t : Entries) : Entries :=
  t.map fun e => if e.1 = key then (key, v) else e

def erase (key : Text) (t : Entries) : Entries := t.filter fun e => e.1 != key

/-- Changes the table at the end of a path below a table, and makes those on the way that are
missing; `done` is the part of the path already behind, reversed. A path goes through the last of
several tables. -/
def change (route : Route) (f : Origin → Entries → Except Fault Entries) (done : List Text) :
    List Text → Origin → Entries → Except Fault Entries
  | [], origin, t => f origin t
  | key :: path, _, t =>
    let here := (key :: done).reverse
    match t.get? key with
    | none =>
      let made := if route = .header then Origin.passage else .dotted
      (change route f (key :: done) path made []).map fun below => t ++ [(key, .table made below)]
    | some (.table origin below) =>
      if origin = .inlined ∧ route ≠ .inlineKey then .error (.noTable here "inline table")
      else if origin = .inlined ∨ (origin = .header ∧ route ≠ .header) then
        .error (.duplicate key none)
      else
        (change route f (key :: done) path origin below).map fun below =>
          t.replace key (.table origin below)
    | some (.tables items) =>
      match items.getLast? with
      | none => .error .absent
      | some last =>
        (change route f (key :: done) path .header last).map fun last =>
          t.replace key (.tables (items.dropLast ++ [last]))
    | some v => .error (.noTable here v.kind)

/-- Adds the value of a key whose path is `path` and whose last part is `key`; `table` is the path
of the table, if it has one. -/
def define (route : Route) (table : Option (List Text)) (path : List Text) (key : Text) (v : Value)
    (origin : Origin) (t : Entries) : Except Fault Entries :=
  change route (fun o below =>
    if o = .dotted ↔ path = [] then .error (.duplicate key none)
    else if (below.get? key).isSome then .error (.duplicate key table)
    else .ok (below ++ [(key, v)])) [] path origin t

def ofPairs (pairs : List (List Text × Value)) : Except Fault Entries :=
  pairs.foldlM (fun t p =>
    define .inlineKey none p.1.dropLast (p.1.getLast?.getD []) p.2 .inlined t) []

end Entries

/-- A document that is being read: what is complete, and the table that the next keys go to. -/
structure Draft where
  root : Entries
  path : List Text
  repeated : Bool
  current : Entries

namespace Draft

def empty : Draft := ⟨[], [], false, []⟩

def place (d : Draft) (key : Text) (t : Entries) : Except Fault Entries :=
  if d.repeated then
    match t.get? key with
    | none => .ok (t ++ [(key, .tables [d.current])])
    | some (.tables items) => .ok (t.replace key (.tables (items ++ [d.current])))
    | some _ => .error (.repeatedHeader d.path)
  else .ok (t.erase key ++ [(key, .table .header d.current)])

def close (d : Draft) : Except Fault Entries :=
  match d.path.getLast? with
  | none => .ok d.current
  | some key => Entries.change .header (fun _ => d.place key) [] d.path.dropLast .header d.root

/-- What is already at the end of a path where a table with a header begins: nothing, or a table
that may still get its header. -/
def reopened (path : List Text) (t : Entries) : Except Fault Entries :=
  match t.get? (path.getLast?.getD []) with
  | none => .ok []
  | some (.table .passage below) => .ok below
  | some _ => .error (.repeatedHeader path)

def lookUp (t : Entries) : List Text → Entries
  | [] => t
  | key :: path =>
    match t.get? key with
    | some (.table _ below) => lookUp below path
    | some (.tables items) => lookUp (items.getLast?.getD []) path
    | _ => []

def openTable (d : Draft) (path : List Text) : Except Fault Draft := do
  let root ← d.close
  let key := path.getLast?.getD []
  let above := path.dropLast
  let cleared ← Entries.change .header (fun _ t => .ok (t.erase key)) [] above .header root
  let current ← reopened path (lookUp root above)
  pure ⟨cleared, path, false, current⟩

def openRepeated (d : Draft) (path : List Text) : Except Fault Draft := do
  let root ← d.close
  let key := path.getLast?.getD []
  let root ← Entries.change .header (fun _ t =>
    match t.get? key with
    | none => .ok (t ++ [(key, .tables [])])
    | some (.tables _) => .ok t
    | some _ => .error (.repeatedHeader path)) [] path.dropLast .header root
  pure ⟨root, path, true, []⟩

def define (d : Draft) (path : List Text) (key : Text) (v : Value) : Except Fault Draft :=
  (Entries.define .key (some d.path) path key v .header d.current).map fun t =>
    { d with current := t }

end Draft

end Runbook.Toml
