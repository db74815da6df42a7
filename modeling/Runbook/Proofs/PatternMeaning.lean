import Mathlib
import Runbook.Pattern.Regex

/-! # What an expression matches

An expression matches the part of a text between two positions. The matcher takes a set of positions
from where parts begin to where those that match end, and so it finds whether any part does.
-/
namespace Runbook.Pattern

def Look.At (l : Look) (text : Text) (i : Nat) : Prop :=
  i ≤ text.length ∧ l.holds (if i = 0 then none else text[i - 1]?) text[i]? = true

theorem Look.at_textStart_iff {text : Text} {i : Nat} : Look.textStart.At text i ↔ i = 0 := by
  constructor
  · rintro ⟨hle, hholds⟩
    by_contra hi
    rw [if_neg hi] at hholds
    have hbefore : text[i - 1]? = some text[i - 1] := List.getElem?_eq_getElem (by omega)
    rw [hbefore] at hholds
    cases hholds
  · rintro rfl
    exact ⟨Nat.zero_le _, rfl⟩

theorem Look.at_textEnd_iff {text : Text} {i : Nat} : Look.textEnd.At text i ↔ i = text.length := by
  constructor
  · rintro ⟨hle, hholds⟩
    exact Nat.le_antisymm hle (List.getElem?_eq_none_iff.mp (beq_iff_eq.mp hholds))
  · rintro rfl
    exact ⟨Nat.le_refl _, beq_iff_eq.mpr (List.getElem?_eq_none (Nat.le_refl _))⟩

def Times (R : Nat → Nat → Prop) : Nat → Nat → Nat → Prop
  | 0, i, j => i = j
  | n + 1, i, k => ∃ j, R i j ∧ Times R n j k

namespace Regex

/-- The expression matches the part of a text from one position to another. -/
def Matches (text : Text) : Regex → Nat → Nat → Prop
  | .empty, i, j => i = j
  | .set c, i, j => j = i + 1 ∧ ∃ ch, text[i]? = some ch ∧ c.mem ch.toNat = true
  | .look l, i, j => i = j ∧ l.At text i
  | .seq r s, i, k => ∃ j, Matches text r i j ∧ Matches text s j k
  | .alt r s, i, j => Matches text r i j ∨ Matches text s i j
  | .repeated r least most, i, j =>
    ∃ more, (∀ m, most = some m → more ≤ m - least) ∧ Times (Matches text r) (least + more) i j

end Regex

variable {R : Nat → Nat → Prop} {text : Text}

theorem times_add {m n i k : Nat} : Times R (m + n) i k ↔ ∃ j, Times R m i j ∧ Times R n j k := by
  induction m generalizing i with
  | zero =>
    rw [Nat.zero_add]
    constructor
    · exact fun h => ⟨i, rfl, h⟩
    · rintro ⟨j, rfl, h⟩
      exact h
  | succ m ih =>
    rw [Nat.succ_add]
    constructor
    · rintro ⟨j, hij, hjk⟩
      obtain ⟨l, hjl, hlk⟩ := ih.mp hjk
      exact ⟨l, ⟨j, hij, hjl⟩, hlk⟩
    · rintro ⟨l, ⟨j, hij, hjl⟩, hlk⟩
      exact ⟨j, hij, ih.mpr ⟨l, hjl, hlk⟩⟩

/-! ## Parts of a text

A part that is not empty ends within the text, so that a repetition has no more steps that lead on
than the text has characters.
-/

/-- Every step stays where it is or leads on within a text. -/
def Advances (text : Text) (R : Nat → Nat → Prop) : Prop :=
  ∀ i j, R i j → i = j ∨ (i < j ∧ j ≤ text.length)

theorem Advances.times (h : Advances text R) (n : Nat) : Advances text (Times R n) := by
  induction n with
  | zero => exact fun i j hij => .inl hij
  | succ n ih =>
    rintro i k ⟨j, hij, hjk⟩
    rcases h i j hij with rfl | hlt
    · exact ih i k hjk
    · rcases ih j k hjk with rfl | hlt'
      · exact .inr hlt
      · exact .inr ⟨by omega, hlt'.2⟩

theorem Advances.exists_times_le (h : Advances text R) {n i k : Nat} (times : Times R n i k) :
    ∃ m, m ≤ text.length - i ∧ Times R m i k := by
  induction n generalizing i with
  | zero => exact ⟨0, Nat.zero_le _, times⟩
  | succ n ih =>
    obtain ⟨j, hij, hjk⟩ := times
    obtain ⟨m, hm, hmk⟩ := ih hjk
    rcases h i j hij with rfl | ⟨hlt, hle⟩
    · exact ⟨m, hm, hmk⟩
    · exact ⟨m + 1, by omega, j, hij, hmk⟩

theorem Regex.matches_advances (r : Regex) : Advances text (r.Matches text) := by
  induction r with
  | empty => exact fun i j h => .inl h
  | set c =>
    rintro i j ⟨rfl, ch, hch, -⟩
    have hi : i < text.length := (List.getElem?_eq_some_iff.mp hch).1
    exact .inr ⟨Nat.lt_succ_self i, hi⟩
  | look l => exact fun i j h => .inl h.1
  | seq r s hr hs =>
    rintro i k ⟨j, hij, hjk⟩
    rcases hr i j hij with rfl | hlt
    · exact hs i k hjk
    · rcases hs j k hjk with rfl | hlt'
      · exact .inr hlt
      · exact .inr ⟨by omega, hlt'.2⟩
  | alt r s hr hs =>
    rintro i j (h | h)
    · exact hr i j h
    · exact hs i j h
  | repeated r least most hr =>
    rintro i j ⟨more, -, h⟩
    exact hr.times _ i j h

/-! ## Sets of positions -/

/-- The function takes a set of positions to the positions that these lead to. -/
def Moves (f : Nat → Nat) (R : Nat → Nat → Prop) : Prop :=
  ∀ s j, (f s).testBit j = true ↔ ∃ i, s.testBit i = true ∧ R i j

theorem testBit_digit_zero (b : Bool) (n : Nat) : (b.toNat + 2 * n).testBit 0 = b := by
  cases b <;> simp [Nat.testBit_zero]

theorem testBit_digit_succ (b : Bool) (n i : Nat) :
    (b.toNat + 2 * n).testBit (i + 1) = n.testBit i := by
  have hdiv : (b.toNat + 2 * n) / 2 = n := by
    have hb := b.toNat_lt
    omega
  rw [Nat.testBit_succ, hdiv]

theorem testBit_maskOf (p : Char → Bool) (text : Text) (i : Nat) :
    (Regex.maskOf p text).testBit i = true ↔ ∃ c, text[i]? = some c ∧ p c = true := by
  induction text generalizing i with
  | nil => simp [Regex.maskOf]
  | cons c text ih =>
    rw [Regex.maskOf]
    cases i with
    | zero =>
      rw [testBit_digit_zero]
      simp
    | succ i => rw [testBit_digit_succ, ih, List.getElem?_cons_succ]

theorem testBit_lookMask (l : Look) (before : Option Char) (text : Text) (i : Nat) :
    (Regex.lookMask l before text).testBit i = true ↔
      i ≤ text.length ∧ l.holds (if i = 0 then before else text[i - 1]?) text[i]? = true := by
  induction text generalizing before i with
  | nil =>
    have hdigit : (Regex.lookMask l before []) = (l.holds before none).toNat + 2 * 0 := rfl
    rw [hdigit]
    cases i with
    | zero =>
      rw [testBit_digit_zero]
      simp
    | succ i =>
      rw [testBit_digit_succ]
      simp
  | cons c text ih =>
    rw [Regex.lookMask]
    cases i with
    | zero =>
      rw [testBit_digit_zero]
      simp
    | succ i =>
      rw [testBit_digit_succ, ih]
      cases i with
      | zero => simp
      | succ i => simp

theorem iterate_eq (f : Nat → Nat) (n s : Nat) : Regex.iterate f n s = f^[n] s := by
  induction n generalizing s with
  | zero => rfl
  | succ n ih =>
    rw [Regex.iterate, Function.iterate_succ_apply]
    by_cases h : f s = s
    · rw [if_pos h, h, Function.iterate_fixed h]
    · rw [if_neg h, ih]

theorem Moves.iterate {f : Nat → Nat} (h : Moves f R) (n : Nat) :
    Moves (Regex.iterate f n) (Times R n) := by
  intro s k
  rw [iterate_eq]
  induction n generalizing s with
  | zero => simp [Times]
  | succ n ih =>
    rw [Function.iterate_succ_apply, ih]
    constructor
    · rintro ⟨j, hj, hjk⟩
      obtain ⟨i, hi, hij⟩ := (h s j).mp hj
      exact ⟨i, hi, j, hij, hjk⟩
    · rintro ⟨i, hi, j, hij, hjk⟩
      exact ⟨j, (h s j).mpr ⟨i, hi, hij⟩, hjk⟩

theorem Moves.grow {f : Nat → Nat} (h : Moves f R) (n : Nat) :
    Moves (Regex.grow f n) fun i j => ∃ m ≤ n, Times R m i j := by
  intro s k
  rw [Regex.grow, iterate_eq]
  induction n generalizing s with
  | zero => simp [Times]
  | succ n ih =>
    rw [Function.iterate_succ_apply, ih]
    simp only [Nat.testBit_or, Bool.or_eq_true]
    constructor
    · rintro ⟨j, hj | hj, m, hm, hjk⟩
      · exact ⟨j, hj, m, Nat.le_succ_of_le hm, hjk⟩
      · obtain ⟨i, hi, hij⟩ := (h s j).mp hj
        exact ⟨i, hi, m + 1, Nat.succ_le_succ hm, j, hij, hjk⟩
    · rintro ⟨i, hi, m, hm, hik⟩
      cases m with
      | zero => exact ⟨i, .inl hi, 0, Nat.zero_le n, hik⟩
      | succ m =>
        obtain ⟨j, hij, hjk⟩ := hik
        exact ⟨j, .inr ((h s j).mpr ⟨i, hi, hij⟩), m, Nat.le_of_succ_le_succ hm, hjk⟩

/-- As many rounds as the text has characters, and one more, are as good as any number. -/
theorem exists_more_iff (h : Advances text R) (least : Nat) (most : Option Nat) (i j : Nat) :
    (∃ more ≤ (match most with | some m => m - least | none => text.length + 1), Times R more i j) ↔
      ∃ more, (∀ m, most = some m → more ≤ m - least) ∧ Times R more i j := by
  cases most with
  | some m => simp
  | none =>
    constructor
    · rintro ⟨more, -, hmore⟩
      exact ⟨more, by simp, hmore⟩
    · rintro ⟨more, -, hmore⟩
      obtain ⟨fewer, hle, hfewer⟩ := h.exists_times_le hmore
      exact ⟨fewer, by simp only []; omega, hfewer⟩

theorem Regex.moves_ends (r : Regex) : Moves (ends text r) (r.Matches text) := by
  induction r with
  | empty =>
    intro s j
    simp [ends, Matches]
  | set c =>
    intro s j
    rw [ends]
    cases j with
    | zero => simp [Matches, Nat.testBit_zero]
    | succ j =>
      have hshift : (2 * (s &&& maskOf (fun ch => c.mem ch.toNat) text)).testBit (j + 1) =
          (s &&& maskOf (fun ch => c.mem ch.toNat) text).testBit j := by
        rw [Nat.testBit_succ, Nat.mul_div_cancel_left _ (Nat.two_pos)]
      rw [hshift, Nat.testBit_and, Bool.and_eq_true, testBit_maskOf]
      constructor
      · rintro ⟨hs, hc⟩
        exact ⟨j, hs, rfl, hc⟩
      · rintro ⟨i, hs, hj, hc⟩
        obtain rfl := Nat.succ.inj hj
        exact ⟨hs, hc⟩
  | look l =>
    intro s j
    rw [ends, Nat.testBit_and, Bool.and_eq_true, testBit_lookMask]
    constructor
    · rintro ⟨hs, hl⟩
      exact ⟨j, hs, rfl, hl⟩
    · rintro ⟨i, hs, rfl, hl⟩
      exact ⟨hs, hl⟩
  | seq r t hr ht =>
    intro s k
    rw [ends, ht]
    constructor
    · rintro ⟨j, hj, hjk⟩
      obtain ⟨i, hi, hij⟩ := (hr s j).mp hj
      exact ⟨i, hi, j, hij, hjk⟩
    · rintro ⟨i, hi, j, hij, hjk⟩
      exact ⟨j, (hr s j).mpr ⟨i, hi, hij⟩, hjk⟩
  | alt r t hr ht =>
    intro s j
    rw [ends, Nat.testBit_or, Bool.or_eq_true, hr, ht, ← exists_or]
    simp only [Matches, and_or_left]
  | repeated r least most hr =>
    intro s k
    have hends : ends text (.repeated r least most) s =
        grow (ends text r) (match most with | some m => m - least | none => text.length + 1)
          (iterate (ends text r) least s) := by
      cases most <;> rfl
    rw [hends, hr.grow]
    simp only [exists_more_iff r.matches_advances, hr.iterate least s, Matches]
    constructor
    · rintro ⟨j, ⟨i, hi, hij⟩, more, hmore, hjk⟩
      exact ⟨i, hi, more, hmore, times_add.mpr ⟨j, hij, hjk⟩⟩
    · rintro ⟨i, hi, more, hmore, hik⟩
      obtain ⟨j, hij, hjk⟩ := times_add.mp hik
      exact ⟨j, ⟨i, hi, hij⟩, more, hmore, hjk⟩

/-- A text has a match when the expression matches some part of it. -/
theorem Regex.isMatch_iff (r : Regex) (text : Text) :
    r.isMatch text = true ↔ ∃ i j, i ≤ text.length ∧ r.Matches text i j := by
  have hnonzero : r.isMatch text = true ↔
      ∃ j, (ends text r (2 ^ (text.length + 1) - 1)).testBit j = true := by
    rw [isMatch, bne_iff_ne]
    constructor
    · exact Nat.exists_testBit_of_ne_zero
    · rintro ⟨j, hj⟩ hzero
      rw [show Nat.pow 2 (text.length + 1) = 2 ^ (text.length + 1) from rfl] at hzero
      rw [hzero, Nat.zero_testBit] at hj
      cases hj
  rw [hnonzero]
  simp only [r.moves_ends _ _, Nat.testBit_two_pow_sub_one, decide_eq_true_eq, Nat.lt_succ_iff]
  exact exists_comm

end Runbook.Pattern
