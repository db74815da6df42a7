import Runbook.Pattern.Regex
import Runbook.Unicode.Ranges

/-! # How much memory a matcher takes

A matcher reads bytes, forwards and backwards; the automaton for reading backwards is the larger
one. It has a state of 32 bytes for each byte that is read or condition that is tested, and four
bytes more for every way to go on where there are several.
-/
namespace Runbook.Pattern

def stateSize : Nat := 32

/-- What one way to go on adds to a state with several. -/
def branchSize : Nat := 4

def byteCount (code : Nat) : Nat :=
  if code < 0x80 then 1 else if code < 0x800 then 2 else if code < 0x10000 then 3 else 4

/-- The bytes of the code points between two that are of one length, as sequences of ranges of
bytes: `rounds` bytes follow the first, and `mark` is added to the bits of the first. -/
def sequences : Nat → Nat → Nat → Nat → List (List (Nat × Nat))
  | 0, mark, low, high => [[(mark + low, mark + high)]]
  | rounds + 1, mark, low, high =>
    let unit := Nat.pow 64 (rounds + 1)
    let below (lead low high : Nat) : List (List (Nat × Nat)) :=
      (sequences rounds 0x80 low high).map ((mark + lead, mark + lead) :: ·)
    let a := low / unit
    let b := high / unit
    if a = b then below a (low % unit) (high % unit)
    else
      let first := if low % unit = 0 then [] else below a (low % unit) (unit - 1)
      let last := if high % unit = unit - 1 then [] else below b 0 (high % unit)
      let a := if low % unit = 0 then a else a + 1
      let b := if high % unit = unit - 1 then b else b - 1
      let between := if a ≤ b then
          [(mark + a, mark + b) :: List.replicate (rounds + 1) (0x80, 0xBF)] else []
      first ++ between ++ last

def sequencesOf (low high : Nat) : List (List (Nat × Nat)) :=
  let part (rounds mark first last : Nat) : List (List (Nat × Nat)) :=
    if first ≤ high ∧ low ≤ last then sequences rounds mark (max low first) (min high last) else []
  part 0 0 0 0x7F ++ part 1 0xC0 0x80 0x7FF ++ part 2 0xE0 0x800 0xFFFF ++
    part 3 0xF0 0x10000 0x10FFFF

/-- How many items of the second list are not shared with the first from its beginning on. -/
def unshared : List (Nat × Nat) → List (Nat × Nat) → Nat
  | a :: as, b :: bs => if a = b then unshared as bs else (b :: bs).length
  | _, bs => bs.length

/-- The states for sequences of ranges, where neighbours share what they begin with. -/
def sharedStates : List (Nat × Nat) → List (List (Nat × Nat)) → Nat
  | _, [] => 0
  | before, s :: rest => unshared before s + sharedStates s rest

namespace CharSet

/-- Where membership changes. A surrogate is no character. -/
def changes : CharSet → Unicode.Changes
  | .nothing => []
  | .range low high => if low ≤ high then [low, high + 1] else []
  | .categories names => Unicode.categoryRuns.changes names.contains
  | .script code => Unicode.scriptRuns.changes (· == code)
  | .property p => p.members.changes id
  | .complement s => s.changes.complement
  | .union s t => s.changes.combine (· || ·) t.changes
  | .inter s t => s.changes.combine (· && ·) t.changes
  | .diff s t => s.changes.combine (fun a b => a && !b) t.changes
  | .symmDiff s t => s.changes.combine (· != ·) t.changes
  | .caseClosed s =>
    let variants := (Unicode.foldedCodes.filter s.mem).flatMap Unicode.caseVariants
    s.changes.combine (· || ·) (.ofSorted (variants.mergeSort (· ≤ ·)))
  | .asciiCaseClosed s =>
    let upper := s.changes.combine (· && ·) [65, 91]
    let lower := s.changes.combine (· && ·) [97, 123]
    (s.changes.combine (· || ·) (upper.map (· + 32))).combine (· || ·) (lower.map (· - 32))

def ranges (s : CharSet) : List (Nat × Nat) :=
  (s.changes.combine (fun a b => a && !b) [0xD800, 0xE000]).ranges

/-- What a set takes. A single character is read byte by byte. -/
def rangesSize : List (Nat × Nat) → Nat
  | [(low, high)] =>
    if low = high then stateSize * byteCount low else several [(low, high)]
  | l => several l
where
  several (l : List (Nat × Nat)) : Nat :=
    if l.all fun r => r.2 < 0x80 then 2 * stateSize + 2 * branchSize * l.length
    else
      let all := l.flatMap fun r => sequencesOf r.1 r.2
      2 * stateSize + branchSize * all.length + stateSize * sharedStates [] all

def size : CharSet → Nat
  | .range low high =>
    if low = high then stateSize * byteCount low else rangesSize (CharSet.range low high).ranges
  | s => rangesSize s.ranges

end CharSet

namespace Regex

def advances : Regex → Bool
  | .empty => false
  | .set _ => true
  | .look _ => false
  | .seq r s => r.advances || s.advances
  | .alt r s => r.advances && s.advances
  | .repeated r least _ => decide (0 < least) && r.advances

def stays : Regex → Bool
  | .empty => true
  | .set _ => false
  | .look _ => true
  | .seq r s => r.stays && s.stays
  | .alt r s => r.stays && s.stays
  | .repeated r _ most => r.stays || most == some 0

def isEmpty : Regex → Bool
  | .empty => true
  | _ => false

def isAlt : Regex → Bool
  | .alt _ _ => true
  | _ => false

def repeatedSize (one : Nat) (advances : Bool) : Nat → Option Nat → Nat
  | 0, none => one + stateSize + 2 * branchSize +
      if advances then 0 else 2 * stateSize + 2 * branchSize
  | 0, some 0 => stateSize
  | 0, some 1 => one + 2 * stateSize + 2 * branchSize
  | least, none => least * one + stateSize + 2 * branchSize
  | least, some most =>
    (if least = 0 then stateSize else least * one) +
      if least = most then 0
      else stateSize + (most - least) * (stateSize + 2 * branchSize + one)

/-- What an expression takes. An empty part of a sequence takes nothing, and alternatives have one
beginning and one end together. What cannot take a character is repeated once at most. -/
def size : Regex → Nat
  | .empty => stateSize
  | .set s => s.size
  | .look _ => stateSize
  | .seq r s => (if r.isEmpty then 0 else r.size) + (if s.isEmpty then 0 else s.size)
  | .alt r s =>
    r.size + s.size + branchSize + if s.isAlt then 0 else 2 * stateSize + branchSize
  | .repeated r least most =>
    if r.stays then repeatedSize r.size r.advances (min least 1) (some (min (most.getD 1) 1))
    else repeatedSize r.size r.advances least most

/-- The expression with where it begins and ends, as a whole and as what is found. -/
def footprint (r : Regex) : Nat := r.size + 4 * stateSize

end Regex

end Runbook.Pattern
