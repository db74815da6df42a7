import Mathlib
import Runbook.Text.Blank

/-! # Cuts and letter case

A text is cut at the first occurrence of a separator, and its tags are compared without regard to
the case of ASCII letters. Both are said here without the searches and conversions that decide them.
-/
namespace Runbook.Text

/-- A text is cut at the first occurrence of a separator. -/
structure CutAt (separator t left right : Text) : Prop where
  eq : t = left ++ separator ++ right
  first : ∀ l r, t = l ++ separator ++ r → left.length ≤ l.length

theorem splitOnce?_eq_none_iff {separator t : Text} :
    splitOnce? separator t = none ↔ ∀ l r, t ≠ l ++ separator ++ r := by
  induction t with
  | nil =>
    by_cases hs : separator = []
    · simp [splitOnce?, hs]
    · simp [splitOnce?, hs]
  | cons c t ih =>
    rw [splitOnce?]
    constructor
    · intro h l r ht
      split at h
      · cases h
      · rename_i hafter
        cases l with
        | nil =>
          rw [List.nil_append] at ht
          rw [after?_eq_some_iff.mpr ht] at hafter
          cases hafter
        | cons d l =>
          have htail : t = l ++ separator ++ r := (List.cons.inj ht).2
          exact ih.mp (Option.map_eq_none_iff.mp h) l r htail
    · intro h
      have hafter : after? separator (c :: t) = none := by
        rw [Option.eq_none_iff_forall_ne_some]
        intro rest hrest
        exact h [] rest (after?_eq_some_iff.mp hrest)
      rw [hafter]
      refine Option.map_eq_none_iff.mpr (ih.mpr fun l r ht => h (c :: l) r ?_)
      rw [ht, List.cons_append, List.cons_append]

/-- No occurrence of the separator begins before the cut. -/
theorem length_le_of_splitOnce? {separator t left right l r : Text}
    (h : splitOnce? separator t = some (left, right)) (ht : t = l ++ separator ++ r) :
    left.length ≤ l.length := by
  induction t generalizing left l with
  | nil =>
    have hleft := eq_append_of_splitOnce? h
    simp_all
  | cons c t ih =>
    rw [splitOnce?] at h
    split at h
    · obtain ⟨rfl, -⟩ := Prod.mk.inj (Option.some.inj h)
      exact Nat.zero_le _
    · rename_i hafter
      obtain ⟨⟨left', right'⟩, hp, he⟩ := Option.map_eq_some_iff.mp h
      obtain ⟨rfl, rfl⟩ := Prod.mk.inj he
      cases l with
      | nil =>
        rw [List.nil_append] at ht
        rw [after?_eq_some_iff.mpr ht] at hafter
        cases hafter
      | cons d l => exact Nat.succ_le_succ (ih hp (List.cons.inj ht).2)

theorem splitOnce?_eq_some_iff {separator t left right : Text} :
    splitOnce? separator t = some (left, right) ↔ CutAt separator t left right := by
  constructor
  · intro h
    exact ⟨eq_append_of_splitOnce? h, fun l r ht => length_le_of_splitOnce? h ht⟩
  · intro h
    cases hs : splitOnce? separator t with
    | none => exact absurd h.eq (splitOnce?_eq_none_iff.mp hs left right)
    | some p =>
      obtain ⟨l, r⟩ := p
      have ht : t = l ++ separator ++ r := eq_append_of_splitOnce? hs
      have hlen : l.length = left.length :=
        Nat.le_antisymm (length_le_of_splitOnce? hs h.eq) (h.first l r ht)
      have happend : l ++ (separator ++ r) = left ++ (separator ++ right) := by
        rw [← List.append_assoc, ← List.append_assoc, ← ht, ← h.eq]
      obtain ⟨rfl, hrest⟩ := List.append_inj happend hlen
      rw [List.append_cancel_left hrest]

/-- A separator does not begin within a text that lacks its first character. -/
theorem cutAt_of_not_mem {c : Char} {left : Text} (h : c ∉ left) (separator right : Text) :
    CutAt (c :: separator) (left ++ (c :: separator) ++ right) left right := by
  refine ⟨rfl, fun l r ht => ?_⟩
  have hl : left ++ c :: (separator ++ right) = l ++ c :: (separator ++ r) := by simpa using ht
  rcases List.append_eq_append_iff.mp hl with ⟨more, rfl, -⟩ | ⟨more, rfl, hmore⟩
  · simp
  · cases more with
    | nil => simp
    | cons d more =>
      obtain ⟨rfl, -⟩ := List.cons.inj hmore
      exact absurd (List.mem_append_right l List.mem_cons_self) h

theorem splitOnce?_of_not_mem {c : Char} {left : Text} (h : c ∉ left) (right : Text) :
    splitOnce? [c] (left ++ c :: right) = some (left, right) := by
  have hcut := cutAt_of_not_mem h [] right
  rw [List.append_assoc] at hcut
  exact splitOnce?_eq_some_iff.mpr hcut

theorem splitOnce?_eq_none_of_not_mem {c : Char} {t : Text} (h : c ∉ t) :
    splitOnce? [c] t = none := by
  refine splitOnce?_eq_none_iff.mpr fun l r ht => h ?_
  rw [ht]
  simp

/-- Texts that differ in nothing but the case of ASCII letters. -/
def SameLetters (s t : Text) : Prop := lowerAscii s = lowerAscii t

@[simp] theorem lowerAscii_upperAscii (t : Text) : lowerAscii (upperAscii t) = lowerAscii t := by
  simp [lowerAscii, upperAscii]

@[simp] theorem upperAscii_lowerAscii (t : Text) : upperAscii (lowerAscii t) = upperAscii t := by
  simp [lowerAscii, upperAscii]

@[simp] theorem upperAscii_upperAscii (t : Text) : upperAscii (upperAscii t) = upperAscii t := by
  rw [← upperAscii_lowerAscii, lowerAscii_upperAscii, upperAscii_lowerAscii]

theorem upperAscii_append (s t : Text) : upperAscii (s ++ t) = upperAscii s ++ upperAscii t :=
  List.map_append

theorem upperAscii_cons (c : Char) (t : Text) : upperAscii (c :: t) = c.toUpper :: upperAscii t :=
  rfl

/-- Small letters or capitals, either tells whether two texts have the same letters. -/
theorem sameLetters_iff {s t : Text} : SameLetters s t ↔ upperAscii s = upperAscii t := by
  constructor
  · intro h
    rw [← upperAscii_lowerAscii s, h, upperAscii_lowerAscii]
  · intro h
    rw [SameLetters, ← lowerAscii_upperAscii s, h, lowerAscii_upperAscii]

theorem sameLetters_iff_of_capitals {s t : Text} (h : upperAscii t = t) :
    SameLetters s t ↔ upperAscii s = t := by
  rw [sameLetters_iff, h]

theorem trim_eq_nil_iff {t : Text} : trim t = [] ↔ isBlankText t = true := by
  rw [isBlankText, List.all_eq_true, trim, trimRight, List.reverse_eq_nil_iff,
    List.dropWhile_eq_nil_iff, trimLeft]
  constructor
  · intro h c hc
    rw [← List.takeWhile_append_dropWhile (p := isBlank) (l := t)] at hc
    rcases List.mem_append.mp hc with hc | hc
    · exact List.mem_takeWhile_imp hc
    · exact h c (List.mem_reverse.mpr hc)
  · intro h c hc
    exact h c ((List.dropWhile_sublist isBlank).subset (List.mem_reverse.mp hc))

end Runbook.Text
