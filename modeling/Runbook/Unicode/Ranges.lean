import Runbook.Unicode.Runs

/-! # Code points in order

A set of code points as the places where membership changes, in ascending order: before the first of
them no code point belongs to it, up to the second all do, and so on by turns.
-/
namespace Runbook.Unicode

abbrev Changes := List Nat

namespace Changes

/-- The set of the code points at which `f` holds of membership in two sets. `a` and `b` tell
whether the changes that are left begin inside the sets, and every round uses up a change. -/
def combineFrom (f : Bool → Bool → Bool) : Nat → Bool → Bool → Changes → Changes → Changes
  | 0, _, _, _, _ => []
  | fuel + 1, a, b, xs, ys =>
    let turn (place : Nat) (a' b' : Bool) (rest : Changes) : Changes :=
      if f a b == f a' b' then rest else place :: rest
    match xs, ys with
    | [], [] => []
    | x :: xs, [] => turn x (!a) b (combineFrom f fuel (!a) b xs [])
    | [], y :: ys => turn y a (!b) (combineFrom f fuel a (!b) [] ys)
    | x :: xs, y :: ys =>
      if x < y then turn x (!a) b (combineFrom f fuel (!a) b xs (y :: ys))
      else if y < x then turn y a (!b) (combineFrom f fuel a (!b) (x :: xs) ys)
      else turn x (!a) (!b) (combineFrom f fuel (!a) (!b) xs ys)

def combine (f : Bool → Bool → Bool) (s t : Changes) : Changes :=
  combineFrom f (s.length + t.length) false false s t

def complement (s : Changes) : Changes := combine (fun a b => a && !b) [0, 0x110000] s

/-- Code points that come in ascending order, some perhaps more than once. -/
def ofSorted : List Nat → Changes
  | [] => []
  | n :: rest =>
    match ofSorted rest with
    | [] => [n, n + 1]
    | m :: more =>
      if m = n then m :: more
      else if m = n + 1 then n :: more
      else n :: (n + 1) :: m :: more

def ranges : Changes → List (Nat × Nat)
  | first :: stop :: rest => (first, stop - 1) :: ranges rest
  | _ => []

end Changes

namespace RunTable

variable {α : Type}

def changes (t : RunTable α) (p : α → Bool) : Changes :=
  let step (s : Bool × List Nat) (e : Nat × α) : Bool × List Nat :=
    if p e.2 == s.1 then s else (p e.2, e.1 :: s.2)
  let (inside, places) := t.entries.toList.foldl step (false, [])
  (if inside then t.limit :: places else places).reverse

end RunTable

end Runbook.Unicode
