import Runbook.Pattern.CharSet

/-! # Regular expressions

An expression relates positions of a text: from where a match begins to where it ends. The matcher
takes a set of positions at once; such a set is a number whose binary digit `i` says whether
position `i` is in it.
-/
namespace Runbook.Pattern

inductive Look where
  | textStart
  | textEnd
  | lineStart
  | lineEnd
  | lineStartReturn
  | lineEndReturn
  | wordBoundary (unicode : Bool)
  | notWordBoundary (unicode : Bool)
  | wordStart (unicode : Bool)
  | wordEnd (unicode : Bool)
  | wordStartHalf (unicode : Bool)
  | wordEndHalf (unicode : Bool)
  deriving DecidableEq, Repr

namespace Look

def inWord (unicode : Bool) : Option Char → Bool
  | none => false
  | some c => (if unicode then CharSet.word else CharSet.asciiWord).mem c.toNat

def holds (l : Look) (before after : Option Char) : Bool :=
  match l with
  | .textStart => before == none
  | .textEnd => after == none
  | .lineStart => before == none || before == some '\n'
  | .lineEnd => after == none || after == some '\n'
  | .lineStartReturn =>
    before == none || before == some '\n' || (before == some '\r' && after != some '\n')
  | .lineEndReturn =>
    after == none || after == some '\r' || (after == some '\n' && before != some '\r')
  | .wordBoundary u => inWord u before != inWord u after
  | .notWordBoundary u => inWord u before == inWord u after
  | .wordStart u => !inWord u before && inWord u after
  | .wordEnd u => inWord u before && !inWord u after
  | .wordStartHalf u => !inWord u before
  | .wordEndHalf u => !inWord u after

end Look

inductive Regex where
  | empty
  | set (s : CharSet)
  | look (l : Look)
  | seq (r s : Regex)
  | alt (r s : Regex)
  | repeated (r : Regex) (least : Nat) (most : Option Nat)

namespace Regex

/-- The positions in front of a character with the property. -/
def maskOf (p : Char → Bool) : Text → Nat
  | [] => 0
  | c :: t => (p c).toNat + 2 * maskOf p t

def lookMask (l : Look) (before : Option Char) : Text → Nat
  | [] => (l.holds before none).toNat
  | c :: t => (l.holds before (some c)).toNat + 2 * lookMask l (some c) t

/-- A function applied a number of times, or until it changes nothing. -/
def iterate (f : Nat → Nat) : Nat → Nat → Nat
  | 0, s => s
  | rounds + 1, s => let t := f s; if t = s then s else iterate f rounds t

/-- What a function reaches within a number of applications, starting points included. -/
def grow (f : Nat → Nat) (rounds : Nat) (s : Nat) : Nat := iterate (fun t => t ||| f t) rounds s

/-- The positions where a match may end that begins in one of the given positions. -/
def ends (text : Text) : Regex → Nat → Nat
  | .empty, s => s
  | .set c, s => 2 * (s &&& maskOf (fun ch => c.mem ch.toNat) text)
  | .look l, s => s &&& lookMask l none text
  | .seq r t, s => ends text t (ends text r s)
  | .alt r t, s => ends text r s ||| ends text t s
  | .repeated r least most, s =>
    let rounds := match most with
      | some m => m - least
      | none => text.length + 1
    grow (ends text r) rounds (iterate (ends text r) least s)

/-- Whether some part of a text matches. -/
def isMatch (r : Regex) (text : Text) : Bool :=
  ends text r (Nat.pow 2 (text.length + 1) - 1) != 0

end Regex

end Runbook.Pattern
