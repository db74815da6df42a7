import Runbook.Unicode.Category
import Runbook.Unicode.Folding
import Runbook.Unicode.Property
import Runbook.Unicode.Script

/-! # Sets of characters

The sets that a pattern can name, built from ranges, Unicode categories, scripts and properties by
the operations of sets.
-/
namespace Runbook.Pattern

inductive CharSet where
  | nothing
  | range (low high : Nat)
  | categories (names : List Text)
  | script (code : Text)
  | property (p : Unicode.Property)
  | complement (s : CharSet)
  | union (s t : CharSet)
  | inter (s t : CharSet)
  | diff (s t : CharSet)
  | symmDiff (s t : CharSet)
  | caseClosed (s : CharSet)
  | asciiCaseClosed (s : CharSet)

namespace CharSet

def isAsciiUpper (n : Nat) : Bool := 65 ≤ n && n ≤ 90

def isAsciiLower (n : Nat) : Bool := 97 ≤ n && n ≤ 122

def otherCase (n : Nat) : Nat :=
  if isAsciiUpper n then n + 32 else if isAsciiLower n then n - 32 else n

def mem : CharSet → Nat → Bool
  | .nothing, _ => false
  | .range low high, n => low ≤ n && n ≤ high
  | .categories names, n => names.contains (Unicode.category n)
  | .script code, n => Unicode.hasScript code n
  | .property p, n => p.holds n
  | .complement s, n => !s.mem n
  | .union s t, n => s.mem n || t.mem n
  | .inter s t, n => s.mem n && t.mem n
  | .diff s t, n => s.mem n && !t.mem n
  | .symmDiff s t, n => s.mem n != t.mem n
  | .caseClosed s, n => (Unicode.caseVariants n).any s.mem
  | .asciiCaseClosed s, n => s.mem n || s.mem (otherCase n)

def single (n : Nat) : CharSet := .range n n

def ofRanges (l : List (Nat × Nat)) : CharSet :=
  l.foldr (fun r s => .union (.range r.1 r.2) s) .nothing

def unionAll (l : List CharSet) : CharSet := l.foldr .union .nothing

def any : CharSet := .range 0 0x10FFFF

def digit : CharSet := .categories ["Nd".toList]

def space : CharSet := .property Unicode.whiteSpace

def word : CharSet :=
  unionAll [.property Unicode.alphabetic, .property Unicode.joinControl,
    .categories (["Mn", "Mc", "Me", "Nd", "Pc"].map String.toList)]

def asciiDigit : CharSet := .range 48 57

def asciiSpace : CharSet := ofRanges [(9, 13), (32, 32)]

def asciiWord : CharSet := ofRanges [(48, 57), (65, 90), (95, 95), (97, 122)]

def posix? (name : Text) : Option CharSet :=
  (posixTable.find? fun p => p.1.toList == name).map fun p => ofRanges p.2
where
  posixTable : List (String × List (Nat × Nat)) :=
    [ ("alnum", [(48, 57), (65, 90), (97, 122)]),
      ("alpha", [(65, 90), (97, 122)]),
      ("ascii", [(0, 127)]),
      ("blank", [(9, 9), (32, 32)]),
      ("cntrl", [(0, 31), (127, 127)]),
      ("digit", [(48, 57)]),
      ("graph", [(33, 126)]),
      ("lower", [(97, 122)]),
      ("print", [(32, 126)]),
      ("punct", [(33, 47), (58, 64), (91, 96), (123, 126)]),
      ("space", [(9, 13), (32, 32)]),
      ("upper", [(65, 90)]),
      ("word", [(48, 57), (65, 90), (95, 95), (97, 122)]),
      ("xdigit", [(48, 57), (65, 70), (97, 102)]) ]

end CharSet

end Runbook.Pattern
