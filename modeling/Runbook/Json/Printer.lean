import Runbook.Json.Basic
import Runbook.Decimal.Shortest

/-! # Compact JSON text

No spaces; members in the order of their names. In a string, quotes, backslashes and the characters
below U+0020 are escaped, and every other character stands for itself.
-/
namespace Runbook.Json

def shortEscape? (c : Char) : Option Char :=
  match c with
  | '\x08' => some 'b'
  | '\t' => some 't'
  | '\n' => some 'n'
  | '\x0c' => some 'f'
  | '\r' => some 'r'
  | _ => none

def hexDigit (n : Nat) : Char := (Nat.toDigits 16 (n % 16)).headD '0'

def escapeChar (c : Char) : Text :=
  if c = '"' then "\\\"".toList
  else if c = '\\' then "\\\\".toList
  else if c.toNat < 0x20 then
    match shortEscape? c with
    | some letter => ['\\', letter]
    | none => "\\u00".toList ++ [hexDigit (c.toNat / 16), hexDigit c.toNat]
  else [c]

def quoted (t : Text) : Text := '"' :: t.flatMap escapeChar ++ ['"']

/-- Numbers with a leading digit between 10^-5 and 10^15 are written without a power of ten. -/
def realText (x : Decimal.Binary64) : Text :=
  let d := x.shortest
  let digits := if -5 ≤ d.leading ∧ d.leading < 16 then d.positional else d.scientific
  if x.negative then '-' :: digits else digits

def Number.text : Number → Text
  | .whole n => Text.ofInt n
  | .real x => realText x

mutual

def render : Json → Text
  | .null => "null".toList
  | .bool b => if b then "true".toList else "false".toList
  | .number n => n.text
  | .string t => quoted t
  | .array items => '[' :: renderItems items ++ [']']
  | .object members => '\x7b' :: renderMembers members ++ ['\x7d']

def renderItems : List Json → Text
  | [] => []
  | [v] => render v
  | v :: w :: rest => render v ++ ',' :: renderItems (w :: rest)

def renderMembers : List (Text × Json) → Text
  | [] => []
  | [(n, v)] => quoted n ++ ':' :: render v
  | (n, v) :: p :: rest => quoted n ++ ':' :: render v ++ ',' :: renderMembers (p :: rest)

end

end Runbook.Json
