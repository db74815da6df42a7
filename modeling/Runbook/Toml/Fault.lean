import Runbook.Text.Basic

/-! # Faults in TOML documents

Reading stops at the first fault. As far as it is known, a message names what was being read, what
could have come next, and why it was refused.
-/
namespace Runbook.Toml

def isBareKey (c : Char) : Bool := c.isAlphanum || c = '_' || c = '-'

def isControl (c : Char) : Bool := c != '\t' && (c.toNat < 0x20 || c.toNat == 0x7F)

def escapeChar (c : Char) : Text :=
  match c with
  | '\x08' => "\\b".toList
  | '\t' => "\\t".toList
  | '\n' => "\\n".toList
  | '\x0c' => "\\f".toList
  | '\r' => "\\r".toList
  | '"' => "\\\"".toList
  | '\\' => "\\\\".toList
  | c =>
    if isControl c then
      let digits := Text.upperAscii (Nat.toDigits 16 c.toNat)
      "\\u".toList ++ List.replicate (4 - digits.length) '0' ++ digits
    else [c]

/-- A key as it is best written: bare, or between quotes of either kind, or with escapes. -/
def writtenKey (key : Text) : Text :=
  if !key.isEmpty && key.all isBareKey then key
  else if !key.any fun c => isControl c || c == '"' || c == '\\' then '"' :: key ++ ['"']
  else if !key.any fun c => isControl c || c == '\x27' then '\x27' :: key ++ ['\x27']
  else '"' :: key.flatMap escapeChar ++ ['"']

/-- What stopped a reader. Where a fault is not `settled`, something else may begin at the same
place. -/
structure Fault where
  settled : Bool
  construct : Option Text
  expected : List Text
  cause : Option Text
  deriving DecidableEq, Repr

namespace Fault

def absent : Fault := ⟨false, none, [], none⟩

def because (cause : Text) : Fault := { absent with cause := some cause }

def outOfRange : Fault := because "value is out of range".toList

def tooDeep : Fault := because "recursion limit exceeded".toList

def tooLarge (negative : Bool) : Fault :=
  let size := if negative then "small" else "large"
  because ("number too ".toList ++ size.toList ++ " to fit in target type".toList)

def duplicate (key : Text) (table : Option (List Text)) : Fault :=
  because ("duplicate key ".toList ++ Text.ticked key ++
    match table with
    | none => []
    | some [] => " in document root".toList
    | some path => " in table ".toList ++ Text.ticked (Text.join ['.'] path))

def repeatedHeader (path : List Text) : Fault :=
  duplicate (writtenKey (path.getLast?.getD [])) (some path.dropLast)

def noTable (path : List Text) (kind : String) : Fault :=
  because ("dotted key ".toList ++ Text.ticked (Text.join ['.'] path) ++
    " attempted to extend non-table type (".toList ++ kind.toList ++ ")".toList)

def message (e : Fault) : Text :=
  let construct := e.construct.map fun c => "invalid ".toList ++ c
  let expected := if e.expected.isEmpty then none
    else some ("expected ".toList ++ Text.join ", ".toList e.expected)
  Text.join ['\n'] ([construct, expected, e.cause].filterMap id)

end Fault

section Context

variable {α : Type}

/-- Names what is being read, unless a part of it is already named. -/
def within (construct : String) (r : Except Fault α) : Except Fault α :=
  r.mapError fun e => { e with construct := e.construct.or (some construct.toList) }

def expecting (things : List Text) (r : Except Fault α) : Except Fault α :=
  r.mapError fun e => { e with expected := e.expected ++ things }

/-- Leaves no other reading of the place. -/
def settle (r : Except Fault α) : Except Fault α := r.mapError fun e => { e with settled := true }

end Context

abbrev Read (α : Type) := Except Fault (α × Text)

def after (head : String) (t : Text) : Except Fault Text :=
  match Text.after? head.toList t with
  | some rest => .ok rest
  | none => .error .absent

end Runbook.Toml
