import Runbook.Text.Basic

/-! # Decimal numbers in texts -/
namespace Runbook.Text

def ofDigits (digits : Text) : Nat :=
  digits.foldl (fun n c => 10 * n + (c.toNat - '0'.toNat)) 0

/-- A number written with decimal digits, of which there is at least one. -/
def digits? (t : Text) : Option Nat :=
  if t = [] ∨ !t.all Char.isDigit then none else some (ofDigits t)

/-- A number before which a plus sign may stand. -/
def unsigned? (t : Text) : Option Nat := digits? ((after? ['+'] t).getD t)

def signed? (t : Text) : Option Int :=
  match after? ['-'] t with
  | some rest => (digits? rest).map fun n => -(n : Int)
  | none => (unsigned? t).map Int.ofNat

end Runbook.Text
