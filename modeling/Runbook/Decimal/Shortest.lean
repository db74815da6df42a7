import Runbook.Decimal.Binary64
import Runbook.Text.Basic

/-! # Shortest decimal notation

The fewest decimal digits that read back as a given binary number, and of those the nearest to it;
of two equally near the even one. The search tries one digit, then two, and so on, and looks at the
two neighbours of the number on the grid of that many digits, in exact arithmetic: if any point of
the grid reads back, one of these two does.
-/
namespace Runbook.Decimal

structure Scaled where
  digits : Nat
  exponent : Int
  deriving DecidableEq, Repr

namespace Scaled

def compareWith (d : Scaled) (num den : Nat) : Ordering :=
  match d.exponent with
  | .ofNat k => compare num (d.digits * Nat.pow 10 k * den)
  | .negSucc k => compare (num * Nat.pow 10 (k + 1)) (d.digits * den)

def leading (d : Scaled) : Int := d.exponent + ((Nat.toDigits 10 d.digits).length : Int) - 1

/-- The same number with trailing zeros moved into the power of ten, as far as `rounds` goes. -/
def normalise : Nat → Scaled → Scaled
  | 0, d => d
  | rounds + 1, d =>
    if d.digits % 10 = 0 then normalise rounds ⟨d.digits / 10, d.exponent + 1⟩ else d

end Scaled

namespace Binary64

def leadingPlace (num den : Nat) : Int :=
  if den ≤ num then ((Nat.toDigits 10 (num / den)).length : Int) - 1
  else
    let t := (Nat.toDigits 10 (den / num)).length
    if num * Nat.pow 10 (t - 1) = den then 1 - (t : Int) else -(t : Int)

/-- Whether a decimal number is nearer to `x` than to any other number of the format. On the
border it is read as `x` if `x` has an even significand. -/
def accepts (x : Binary64) (d : Scaled) : Bool :=
  let quarter : Binary64 → Nat × Nat := fun y => let (a, b) := y.magnitude; (a, 4 * b)
  let wide := { x with significand := 4 * x.significand + 2 }
  let narrow :=
    if x.significand = Nat.pow 2 (precision - 1) ∧ leastExponent < x.exponent
    then { x with significand := 4 * x.significand - 1 }
    else { x with significand := 4 * x.significand - 2 }
  let (uNum, uDen) := quarter wide
  let (lNum, lDen) := quarter narrow
  let even := x.significand % 2 == 0
  let below := match d.compareWith uNum uDen with
    | .gt => true
    | .eq => even
    | .lt => false
  let above := match d.compareWith lNum lDen with
    | .lt => true
    | .eq => even
    | .gt => false
  below && above

/-- The nearest of the two grid neighbours of `x` that read back. -/
def pick (x : Binary64) (floor : Scaled) : Option Scaled :=
  let ceiling : Scaled := ⟨floor.digits + 1, floor.exponent⟩
  match accepts x floor, accepts x ceiling with
  | true, true =>
    let (a, b) := x.magnitude
    let middle : Scaled := ⟨10 * floor.digits + 5, floor.exponent - 1⟩
    match middle.compareWith a b with
    | .lt => some floor
    | .gt => some ceiling
    | .eq => if floor.digits % 2 = 0 then some floor else some ceiling
  | true, false => some floor
  | false, true => some ceiling
  | false, false => none

/-- The greatest decimal number with `exponent` as its last place that is not above `num / den`. -/
def floorAt (num den : Nat) (exponent : Int) : Scaled :=
  match exponent with
  | .ofNat k => ⟨num / (den * Nat.pow 10 k), exponent⟩
  | .negSucc k => ⟨num * Nat.pow 10 (k + 1) / den, exponent⟩

/-- The search from `n` digits on, for at most `rounds` numbers of digits. -/
def shortestFrom (x : Binary64) (place : Int) : Nat → Nat → Scaled
  | 0, n => let (a, b) := x.magnitude; floorAt a b (place - n + 1)
  | rounds + 1, n =>
    let (a, b) := x.magnitude
    match pick x (floorAt a b (place - n + 1)) with
    | some d => d
    | none => shortestFrom x place rounds (n + 1)

/-- The shortest decimal notation of a number, without its sign. -/
def shortest (x : Binary64) : Scaled :=
  if x.significand = 0 then ⟨0, 0⟩
  else
    let (a, b) := x.magnitude
    (shortestFrom x (leadingPlace a b) 17 1).normalise 20

end Binary64

/-- Digits with a decimal point and at least one digit on either side of it. -/
def Scaled.positional (d : Scaled) : Text :=
  let digits := Text.ofNat d.digits
  match d.exponent with
  | .ofNat k => digits ++ List.replicate k '0' ++ ".0".toList
  | .negSucc k =>
    let places := k + 1
    let padded := List.replicate (places + 1 - digits.length) '0' ++ digits
    padded.take (padded.length - places) ++ '.' :: padded.drop (padded.length - places)

/-- One digit before the point, the point only if more digits follow it, and a power of ten that
always has a sign. -/
def Scaled.scientific (d : Scaled) : Text :=
  let e := d.leading
  let mantissa := match Text.ofNat d.digits with
    | c :: [] => [c]
    | c :: rest => c :: '.' :: rest
    | [] => []
  let sign := if e < 0 then '-' else '+'
  mantissa ++ 'e' :: sign :: Text.ofNat e.natAbs

end Runbook.Decimal
