import Runbook.Text.Basic
import Runbook.Decimal.Binary64

/-! # JSON values

The members of an object are kept in ascending order of their names, which is also the order of the
names' UTF-8 bytes, and no two have the same name.
-/
namespace Runbook

/-- Whole numbers of at most 64 bits are exact; every other number is a binary floating-point
one. -/
inductive Json.Number where
  | whole (n : Int)
  | real (x : Decimal.Binary64)
  deriving DecidableEq, Repr

inductive Json where
  | null
  | bool (b : Bool)
  | number (n : Json.Number)
  | string (t : Text)
  | array (items : List Json)
  | object (members : List (Text × Json))
  deriving Repr, Inhabited

namespace Json

def nameLt : Text → Text → Bool
  | _, [] => false
  | [], _ :: _ => true
  | a :: s, b :: t => if a = b then nameLt s t else a.toNat < b.toNat

abbrev Members := List (Text × Json)

namespace Members

def get? (name : Text) : Members → Option Json
  | [] => none
  | (n, v) :: rest => if n = name then some v else get? name rest

/-- Adds a member in its place, or gives the member of that name a new value. -/
def insert (name : Text) (value : Json) : Members → Members
  | [] => [(name, value)]
  | (n, v) :: rest =>
    if n = name then (name, value) :: rest
    else if nameLt name n then (name, value) :: (n, v) :: rest
    else (n, v) :: insert name value rest

theorem get?_insert (name other : Text) (value : Json) (m : Members) :
    get? other (insert name value m) = if name = other then some value else get? other m := by
  induction m with
  | nil => simp [insert, get?]
  | cons p rest ih =>
    obtain ⟨n, v⟩ := p
    by_cases hn : n = name
    · subst hn
      by_cases ho : n = other <;> simp [insert, get?, ho]
    · by_cases hl : nameLt name n
      · simp [insert, get?, hn, hl]
      · by_cases ho : n = other
        · subst ho
          simp [insert, get?, hn, hl, Ne.symm hn]
        · simp [insert, get?, hn, hl, ho, ih]

def insertIfAbsent (name : Text) (value : Json) (m : Members) : Members :=
  if (get? name m).isSome then m else insert name value m

def ofList (l : List (Text × Json)) : Members :=
  l.foldl (fun m p => insert p.1 p.2 m) []

end Members

def obj (l : List (String × Json)) : Json :=
  .object (Members.ofList (l.map fun p => (p.1.toList, p.2)))

def nat (n : Nat) : Json := .number (.whole n)

def member? (name : Text) : Json → Option Json
  | .object m => Members.get? name m
  | _ => none

def text? : Json → Option Text
  | .string t => some t
  | _ => none

def at? (v : Json) : List Text → Option Json
  | [] => some v
  | name :: path => match v.member? name with
    | some w => at? w path
    | none => none

end Json

end Runbook
