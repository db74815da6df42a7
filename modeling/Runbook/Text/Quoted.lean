import Runbook.Unicode.Category
import Runbook.Unicode.Property

/-! # Quoted texts

A text between double quotes, as error messages show it. A backslash marks the characters that
would not be seen: quotes and backslashes, the usual control characters by a letter, and every
other character that prints nothing of its own by its code point.
-/
namespace Runbook.Text

/-- Whether a character is shown by its code point: it is a control, format, unassigned,
private-use or separator character other than the space, or it attaches to the one before it. -/
def isHidden (c : Char) : Bool :=
  c != ' ' && (["Cc", "Cf", "Cs", "Co", "Cn", "Zl", "Zp", "Zs"].any fun k =>
    Unicode.category c.toNat == k.toList) || Unicode.graphemeExtend.holds c.toNat

def quoteChar (c : Char) : Text :=
  match c with
  | '"' => "\\\"".toList
  | '\\' => "\\\\".toList
  | '\n' => "\\n".toList
  | '\r' => "\\r".toList
  | '\t' => "\\t".toList
  | '\x00' => "\\0".toList
  | c =>
    if isHidden c then "\\u\x7b".toList ++ Nat.toDigits 16 c.toNat ++ "\x7d".toList else [c]

def quote (t : Text) : Text := '"' :: t.flatMap quoteChar ++ ['"']

end Runbook.Text
