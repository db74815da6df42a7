import Runbook.Decimal.Shortest
import Runbook.Text.Quoted
import Runbook.Toml.Table

/-! # Records in TOML

A record is read from a table, each field from the entry of its name, or from an array, each field
from the item in its place. The first problem in the order of the document counts, and a field that
is missing comes last.
-/
namespace Runbook.Fields

open Toml (Value Entries)
open Text (ticked)

def numberText : Toml.Number → Text
  | .finite x =>
    let digits := x.shortest.positional
    if x.negative then '-' :: digits else digits
  | .infinite negative => if negative then "-inf".toList else "inf".toList
  | .undefined => "NaN".toList

def describe : Value → Text
  | .string t => "string ".toList ++ Text.quote t
  | .integer n => "integer ".toList ++ ticked (Text.ofInt n)
  | .float x => "floating point ".toList ++ ticked (numberText x)
  | .boolean b => "boolean ".toList ++ ticked (if b then "true".toList else "false".toList)
  | .dateTime => "map".toList
  | .array _ => "sequence".toList
  | .table _ _ => "map".toList
  | .tables _ => "sequence".toList

def wrongType (v : Value) (expected : Text) : Text :=
  "invalid type: ".toList ++ describe v ++ ", expected ".toList ++ expected

def text : Value → Except Text Text
  | .string t => .ok t
  | v => .error (wrongType v "a string".toList)

def word (name : Text) (bound : Nat) : Value → Except Text Nat
  | .integer n =>
    if 0 ≤ n ∧ n.toNat < bound then .ok n.toNat
    else .error ("invalid value: ".toList ++ describe (.integer n) ++ ", expected ".toList ++ name)
  | v => .error (wrongType v name)

def word16 : Value → Except Text Nat := word "u16".toList (Nat.pow 2 16)

def word64 : Value → Except Text Nat := word "u64".toList (Nat.pow 2 64)

structure RecordField (ρ : Type) where
  name : Text
  set : Value → ρ → Except Text ρ

def field {ρ α : Type} (name : String) (read : Value → Except Text α) (store : α → ρ → ρ) :
    RecordField ρ :=
  ⟨name.toList, fun v r => (read v).map fun a => store a r⟩

def choices : List Text → Text
  | [] => "there are no fields".toList
  | [a] => "expected ".toList ++ ticked a
  | [a, b] => "expected ".toList ++ ticked a ++ " or ".toList ++ ticked b
  | names => "expected one of ".toList ++ Text.join ", ".toList (names.map ticked)

variable {ρ : Type}

def unknownField (fields : List (RecordField ρ)) (key : Text) : Text :=
  "unknown field ".toList ++ ticked key ++ ", ".toList ++ choices (fields.map (·.name))

def ofEntries (fields : List (RecordField ρ)) : Entries → ρ → Except Text ρ
  | [], r => .ok r
  | (key, v) :: rest, r =>
    match fields.find? fun f => f.name == key with
    | none => .error (unknownField fields key)
    | some f =>
      match f.set v r with
      | .error e => .error e
      | .ok r => ofEntries fields rest r

/-- A record from the items of an array; items beyond the last field are left. -/
def ofItems : List (RecordField ρ) → List Value → ρ → Except Text ρ
  | f :: fields, v :: rest, r =>
    match f.set v r with
    | .error e => .error e
    | .ok r => ofItems fields rest r
  | _, _, r => .ok r

/-- The key of the entry that a date or time consists of. -/
def dateTimeKey : Text := "$__toml_private_datetime".toList

/-- A kind of record: its name, its fields, what a record is before any field is read, and the
names of the fields that it must have with the question whether it has them. -/
structure Shape (ρ : Type) where
  name : Text
  fields : List (RecordField ρ)
  start : ρ
  required : List (Text × (ρ → Bool))

def Shape.expected (s : Shape ρ) : Text := "struct ".toList ++ s.name

def Shape.missing? (s : Shape ρ) (r : ρ) : Option Text :=
  (s.required.find? fun q => !q.2 r).map (·.1)

def Shape.finishTable (s : Shape ρ) (r : ρ) : Except Text ρ :=
  match s.missing? r with
  | some name => .error ("missing field ".toList ++ ticked name)
  | none => .ok r

/-- An array is too short when the place of a required field is beyond its end. -/
def Shape.finishArray (s : Shape ρ) (r : ρ) : Except Text ρ :=
  match s.missing? r with
  | some name =>
    let place := (s.fields.map (·.name)).idxOf name
    .error ("invalid length ".toList ++ Text.ofNat place ++ ", expected ".toList ++ s.expected ++
      " with ".toList ++ Text.ofNat s.fields.length ++ " elements".toList)
  | none => .ok r

def Shape.ofArray (s : Shape ρ) (items : List Value) : Except Text ρ :=
  (ofItems s.fields items s.start).bind s.finishArray

def Shape.ofTable (s : Shape ρ) (entries : Entries) : Except Text ρ :=
  (ofEntries s.fields entries s.start).bind s.finishTable

def Shape.read (s : Shape ρ) : Value → Except Text ρ
  | .table _ entries => s.ofTable entries
  | .array items => s.ofArray items
  | .tables items => s.ofArray (items.map (.table .header))
  | .dateTime => .error (unknownField s.fields dateTimeKey)
  | v => .error (wrongType v s.expected)

end Runbook.Fields
