import Runbook.Text.Utf8

/-! # Paths

A path is kept as it was written, as bytes, and read as components: repeated and trailing slashes
add nothing, and neither does a component `.` unless it is the first. Paths are ordered by their
components, each by its bytes.
-/
namespace Runbook

open Text (Bytes)

structure Path where
  bytes : Bytes
  deriving DecidableEq, Repr, Inhabited

namespace Path

def slash : UInt8 := 47

def dot : UInt8 := 46

def ofText (t : Text) : Path := ⟨Text.encode t⟩

/-- The path as a text, with U+FFFD for the bytes that are none. -/
def display (p : Path) : Text := Text.decodeLossy p.bytes

inductive Component where
  | root
  | current
  | parent
  | name (b : Bytes)
  deriving DecidableEq, Repr

def segments : Bytes → List Bytes
  | [] => [[]]
  | b :: r =>
    if b = slash then [] :: segments r
    else
      match segments r with
      | s :: rest => (b :: s) :: rest
      | [] => [[b]]

def component? (s : Bytes) : Option Component :=
  if s = [] ∨ s = [dot] then none
  else if s = [dot, dot] then some .parent
  else some (.name s)

def components (p : Path) : List Component :=
  let head := match p.bytes with
    | [] => []
    | b :: _ =>
      if b = slash then [.root]
      else if (segments p.bytes).head? = some [dot] then [.current]
      else []
  head ++ (segments p.bytes).filterMap component?

namespace Component

def rank : Component → Nat
  | .root => 0
  | .current => 1
  | .parent => 2
  | .name _ => 3

end Component

def bytesLe : Bytes → Bytes → Bool
  | [], _ => true
  | _ :: _, [] => false
  | a :: s, b :: t => if a = b then bytesLe s t else a < b

def Component.le : Component → Component → Bool
  | .name a, .name b => bytesLe a b
  | a, b => a.rank ≤ b.rank

def componentsLe : List Component → List Component → Bool
  | [], _ => true
  | _ :: _, [] => false
  | a :: s, b :: t => if a = b then componentsLe s t else a.le b

def le (p q : Path) : Bool := componentsLe p.components q.components

def fileName? (p : Path) : Option Bytes :=
  match p.components.getLast? with
  | some (.name b) => some b
  | _ => none

/-- Everything before the last dot of a name, unless that is empty; then the whole name. -/
def stem (name : Bytes) : Bytes :=
  match (name.reverse.dropWhile (· != dot)) with
  | _ :: before => if before = [] then name else before.reverse
  | [] => name

def fileStem? (p : Path) : Option Bytes := p.fileName?.map stem

/-- The length of the root or of a leading `.`, which no parent cuts off. -/
def anchor (p : Path) : Nat :=
  match p.bytes with
  | [] => 0
  | b :: _ => if b = slash then 1 else if (segments p.bytes).head? = some [dot] then 1 else 0

/-- Trailing slashes and trailing `.` components of a reversed path are left out. -/
def trimTail : Nat → Bytes → Bytes
  | 0, r => r
  | fuel + 1, r =>
    match r with
    | [] => []
    | b :: rest =>
      if b = slash then trimTail fuel rest
      else if b = dot then
        match rest with
        | [] => []
        | c :: _ => if c = slash then trimTail fuel rest else r
      else r

/-- The path without its last component, as it was written, if it has one that is no root. -/
def parent? (p : Path) : Option Path :=
  let kept := p.bytes.take p.anchor
  let body := (p.bytes.drop p.anchor).reverse
  match trimTail body.length body with
  | [] =>
    match p.components with
    | [.current] => some ⟨[]⟩
    | _ => none
  | rest =>
    let before := rest.dropWhile (· != slash)
    some ⟨kept ++ (trimTail before.length before).reverse⟩

def join (dir : Path) (name : Bytes) : Path :=
  match dir.bytes.getLast? with
  | none => ⟨name⟩
  | some b => if b = slash then ⟨dir.bytes ++ name⟩ else ⟨dir.bytes ++ slash :: name⟩

/-- The path of a relative path inside a directory; an absolute path stays as it is. -/
def append (dir tail : Path) : Path :=
  if tail.bytes.head? = some slash then tail else dir.join tail.bytes

end Path

end Runbook
