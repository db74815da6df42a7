/-! # Binary floating-point numbers

The finite numbers of the 64-bit binary format, held exactly: a sign, a significand below 2^53 and
a power of two between -1074 and 971. Every operation computes the exact result and rounds it once,
to the nearest number and to the even significand when two are equally near.
-/
namespace Runbook.Decimal

/-- The number `significand * 2 ^ exponent`, negated if `negative`. -/
structure Binary64 where
  negative : Bool
  significand : Nat
  exponent : Int
  deriving DecidableEq, Repr

namespace Binary64

def precision : Nat := 53

def leastExponent : Int := -1074

def greatestExponent : Int := 971

def zero (negative : Bool) : Binary64 := ⟨negative, 0, leastExponent⟩

def isZero (x : Binary64) : Bool := x.significand == 0

/-- A fraction rounded to the nearest whole number, a half to the even one. -/
def roundQuotient (num den : Nat) : Nat :=
  let q := num / den
  let r := num % den
  if 2 * r < den then q
  else if den < 2 * r then q + 1
  else if q % 2 = 0 then q else q + 1

/-- The fraction `num / den`, each multiplied by a power of two so that their ratio is divided by
`2 ^ e`. -/
def scaleDown (num den : Nat) (e : Int) : Nat × Nat :=
  match e with
  | .ofNat k => (num, den * Nat.pow 2 k)
  | .negSucc k => (num * Nat.pow 2 (k + 1), den)

/-- The exponent of the last place of the numbers near `num / den`: such that the quotient by it
has 53 binary digits, or the least one. -/
def placeOf (num den : Nat) : Int :=
  let guess : Int := (num.log2 : Int) - (den.log2 : Int) - (precision : Int)
  let (n, d) := scaleDown num den guess
  let e := if n / d < Nat.pow 2 precision then guess else guess + 1
  if e < leastExponent then leastExponent else e

/-- The number nearest to `num / den`, or `none` if that is too large for the format. -/
def nearest? (negative : Bool) (num den : Nat) : Option Binary64 :=
  if num = 0 then some (zero negative)
  else
    let e := placeOf num den
    let (n, d) := scaleDown num den e
    let q := roundQuotient n d
    let (q, e) := if q = Nat.pow 2 precision then (Nat.pow 2 (precision - 1), e + 1) else (q, e)
    if greatestExponent < e then none
    else if q = 0 then some (zero negative)
    else some ⟨negative, q, e⟩

def ofDecimal? (negative : Bool) (significand : Nat) (exponent : Int) : Option Binary64 :=
  match exponent with
  | .ofNat k => nearest? negative (significand * Nat.pow 10 k) 1
  | .negSucc k => nearest? negative significand (Nat.pow 10 (k + 1))

def magnitude (x : Binary64) : Nat × Nat :=
  match x.exponent with
  | .ofNat k => (x.significand * Nat.pow 2 k, 1)
  | .negSucc k => (x.significand, Nat.pow 2 (k + 1))

def mul? (x y : Binary64) : Option Binary64 :=
  let (a, b) := x.magnitude
  let (c, d) := y.magnitude
  nearest? (x.negative != y.negative) (a * c) (b * d)

def div? (x y : Binary64) : Option Binary64 :=
  let (a, b) := x.magnitude
  let (c, d) := y.magnitude
  if c = 0 then none else nearest? (x.negative != y.negative) (a * d) (b * c)

end Binary64

end Runbook.Decimal
