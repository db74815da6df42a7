/-! # Texts

A text is its list of characters. This module holds the searches and cuts that the readers
share: a leading part that is taken off, and a text that is split at the first occurrence of a
separator.
-/
namespace Runbook

abbrev Text := List Char

namespace Text

def ofNat (n : Nat) : Text := Nat.toDigits 10 n

def ofInt : Int → Text
  | .ofNat n => ofNat n
  | .negSucc n => '-' :: ofNat (n + 1)

/-- What follows `head` in a text that starts with it. -/
def after? : Text → Text → Option Text
  | [], t => some t
  | _ :: _, [] => none
  | h :: head, c :: t => if h = c then after? head t else none

theorem after?_eq_some_iff {head t rest : Text} :
    after? head t = some rest ↔ t = head ++ rest := by
  induction head generalizing t with
  | nil => simp [after?, eq_comm]
  | cons h head ih =>
    cases t with
    | nil => simp [after?]
    | cons c t =>
      by_cases hc : h = c
      · simp [after?, hc, ih]
      · simp [after?, hc, eq_comm]

def before? (tail t : Text) : Option Text :=
  (after? tail.reverse t.reverse).map List.reverse

theorem before?_eq_some_iff {tail t rest : Text} :
    before? tail t = some rest ↔ t = rest ++ tail := by
  constructor
  · intro h
    obtain ⟨u, hu, rfl⟩ := Option.map_eq_some_iff.1 h
    have := congrArg List.reverse (after?_eq_some_iff.1 hu)
    simpa using this
  · rintro rfl
    simp [before?, Option.map_eq_some_iff, after?_eq_some_iff]

/-- The parts before and after the first occurrence of a separator. -/
def splitOnce? (separator : Text) : Text → Option (Text × Text)
  | [] => if separator = [] then some ([], []) else none
  | c :: t =>
    match after? separator (c :: t) with
    | some rest => some ([], rest)
    | none => (splitOnce? separator t).map fun p => (c :: p.1, p.2)

/-- Nothing but the separator is lost. -/
theorem eq_append_of_splitOnce? {separator t left right : Text}
    (h : splitOnce? separator t = some (left, right)) : t = left ++ separator ++ right := by
  induction t generalizing left with
  | nil =>
    by_cases hs : separator = [] <;> simp_all [splitOnce?]
  | cons c t ih =>
    unfold splitOnce? at h
    split at h
    · rename_i rest hrest
      obtain ⟨rfl, rfl⟩ := Prod.mk.inj (Option.some.inj h)
      simpa using after?_eq_some_iff.1 hrest
    · obtain ⟨⟨l, r⟩, hp, he⟩ := Option.map_eq_some_iff.1 h
      obtain ⟨rfl, rfl⟩ := Prod.mk.inj he
      simp [ih hp]

def startsWith (head t : Text) : Bool := (after? head t).isSome

def occursIn (needle t : Text) : Bool := (splitOnce? needle t).isSome

def join (separator : Text) : List Text → Text
  | [] => []
  | [t] => t
  | t :: u :: ts => t ++ separator ++ join separator (u :: ts)

def ticked (t : Text) : Text := '\x60' :: t ++ ['\x60']

/-- ASCII letters become capitals; every other character stays. -/
def upperAscii (t : Text) : Text := t.map Char.toUpper

def lowerAscii (t : Text) : Text := t.map Char.toLower

end Text

end Runbook
