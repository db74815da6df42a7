import Mathlib.Algebra.GroupWithZero.Nat
import Mathlib.Tactic.SplitIfs
import Runbook.Path

/-! # UTF-8 is read back

The bytes of a character are read as that character, whatever follows them, and so the bytes of a
text are shown as that text. An ASCII character is shown wherever its byte stands, among any bytes,
and if it is not U+0000, nowhere else.
-/
namespace Runbook

namespace Text

/-! ## First bytes -/

variable {b s : UInt8}

theorem lead_of_ascii (h : b < 0x80) : lead b = .char (Char.ofNat b.toNat) := by
  simp [lead, h]

theorem not_lt_of_toNat_le {c : UInt8} (h : c.toNat ≤ b.toNat) : ¬ b < c :=
  UInt8.not_lt.mpr (UInt8.le_iff_toNat_le.mpr h)

theorem lead_of_two (low : 0xC2 ≤ b.toNat) (high : b.toNat ≤ 0xDF) :
    lead b = .more ⟨1, 0x80, 0xBF, b.toNat % 32⟩ := by
  have hb : ¬ b < 0x80 := not_lt_of_toNat_le (Nat.le_trans (by decide) low)
  have hlow : 0xC2 ≤ b := UInt8.le_iff_toNat_le.mpr low
  have hhigh : b ≤ 0xDF := UInt8.le_iff_toNat_le.mpr high
  simp [lead, hb, hlow, hhigh]

/-- A byte that begins three, and one that may follow it: not where fewer bytes would do, nor for a
surrogate. -/
theorem lead_of_three (low : 0xE0 ≤ b.toNat) (high : b.toNat ≤ 0xEF) (continues : 0x80 ≤ s.toNat)
    (continues' : s.toNat ≤ 0xBF) (long : b.toNat = 0xE0 → 0xA0 ≤ s.toNat)
    (scalar : b.toNat = 0xED → s.toNat ≤ 0x9F) :
    ∃ l u, lead b = .more ⟨2, l, u, b.toNat % 16⟩ ∧ l ≤ s ∧ s ≤ u := by
  simp only [UInt8.le_iff_toNat_le]
  by_cases hlong : b = 0xE0
  · subst hlong
    exact ⟨0xA0, 0xBF, rfl, long rfl, continues'⟩
  by_cases hscalar : b = 0xED
  · subst hscalar
    exact ⟨0x80, 0x9F, rfl, continues, scalar rfl⟩
  have hb : ¬ b < 0x80 := not_lt_of_toNat_le (Nat.le_trans (by decide) low)
  have htwo : ¬ b ≤ 0xDF := fun h =>
    absurd (Nat.le_trans low (UInt8.le_iff_toNat_le.mp h)) (by decide)
  have hne : b.toNat ≠ 0xE0 := fun h => hlong (UInt8.toNat_inj.mp h)
  have hlow : 0xE1 ≤ b := UInt8.le_iff_toNat_le.mpr (Nat.lt_of_le_of_ne low (Ne.symm hne))
  have hhigh : b ≤ 0xEF := UInt8.le_iff_toNat_le.mpr high
  refine ⟨0x80, 0xBF, ?_, continues, continues'⟩
  simp [lead, hb, htwo, hlong, hscalar, hlow, hhigh]

theorem lead_of_four (low : 0xF0 ≤ b.toNat) (high : b.toNat ≤ 0xF4) (continues : 0x80 ≤ s.toNat)
    (continues' : s.toNat ≤ 0xBF) (long : b.toNat = 0xF0 → 0x90 ≤ s.toNat)
    (bounded : b.toNat = 0xF4 → s.toNat ≤ 0x8F) :
    ∃ l u, lead b = .more ⟨3, l, u, b.toNat % 8⟩ ∧ l ≤ s ∧ s ≤ u := by
  simp only [UInt8.le_iff_toNat_le]
  by_cases hlong : b = 0xF0
  · subst hlong
    exact ⟨0x90, 0xBF, rfl, long rfl, continues'⟩
  by_cases hbounded : b = 0xF4
  · subst hbounded
    exact ⟨0x80, 0x8F, rfl, continues, bounded rfl⟩
  have hne : b.toNat ≠ 0xF0 := fun h => hlong (UInt8.toNat_inj.mp h)
  have hne' : b.toNat ≠ 0xF4 := fun h => hbounded (UInt8.toNat_inj.mp h)
  -- Three first bytes are left, and nothing more is asked of what follows them.
  have hb : b = 0xF1 ∨ b = 0xF2 ∨ b = 0xF3 := by
    simp only [← UInt8.toNat_inj, UInt8.reduceToNat]
    omega
  refine ⟨0x80, 0xBF, ?_, continues, continues'⟩
  rcases hb with rfl | rfl | rfl <;> rfl

/-! ## Further bytes -/

variable {l u : UInt8} {bits : Nat}

theorem partsFrom_of_lead {u : Unfinished} (h : lead b = .more u) (r : Bytes) :
    partsFrom none (b :: r) = partsFrom (some u) r := by
  rw [partsFrom, h]

theorem partsFrom_last (low : l ≤ b) (high : b ≤ u) (r : Bytes) :
    partsFrom (some ⟨1, l, u, bits⟩) (b :: r) =
      some (Char.ofNat (bits * 64 + b.toNat % 64)) :: partsFrom none r := by
  simp [partsFrom, low, high, Unfinished.extend]

theorem partsFrom_next (owed : Nat) (low : l ≤ b) (high : b ≤ u) (r : Bytes) :
    partsFrom (some ⟨owed + 2, l, u, bits⟩) (b :: r) =
      partsFrom (some ⟨owed + 1, 0x80, 0xBF, bits * 64 + b.toNat % 64⟩) r := by
  simp [partsFrom, low, high, Unfinished.extend]

/-! ## Characters -/

theorem toNat_ofNat_of_lt {n : Nat} (h : n < 256) : (UInt8.ofNat n).toNat = n := by
  rw [UInt8.toNat_ofNat']
  exact Nat.mod_eq_of_lt h

variable {n : Nat}

/-- A byte that continues a character holds six of its bits. -/
theorem continues_ofNat (n : Nat) : (0x80 : UInt8) ≤ UInt8.ofNat (n % 64 + 128) ∧
    UInt8.ofNat (n % 64 + 128) ≤ 0xBF ∧ (UInt8.ofNat (n % 64 + 128)).toNat % 64 = n % 64 := by
  have hbyte : (UInt8.ofNat (n % 64 + 128)).toNat = n % 64 + 128 := toNat_ofNat_of_lt (by omega)
  simp only [UInt8.le_iff_toNat_le, hbyte, UInt8.reduceToNat]
  omega

theorem partsFrom_two (low : 0x80 ≤ n) (high : n ≤ 0x7FF) (r : Bytes) :
    partsFrom none (UInt8.ofNat (n / 64 % 32 + 192) :: UInt8.ofNat (n % 64 + 128) :: r) =
      some (Char.ofNat n) :: partsFrom none r := by
  have hfirst : (UInt8.ofNat (n / 64 % 32 + 192)).toNat = n / 64 % 32 + 192 :=
    toNat_ofNat_of_lt (by omega)
  obtain ⟨hlow, hhigh, hbits⟩ := continues_ofNat n
  have hlead := lead_of_two (b := UInt8.ofNat (n / 64 % 32 + 192)) (by omega) (by omega)
  have hn : (n / 64 % 32 + 192) % 32 * 64 + n % 64 = n := by omega
  rw [partsFrom_of_lead hlead, partsFrom_last hlow hhigh, hfirst, hbits, hn]

theorem partsFrom_three (low : 0x800 ≤ n) (high : n ≤ 0xFFFF)
    (scalar : n < 0xD800 ∨ 0xDFFF < n) (r : Bytes) :
    partsFrom none (UInt8.ofNat (n / 4096 % 16 + 224) :: UInt8.ofNat (n / 64 % 64 + 128) ::
      UInt8.ofNat (n % 64 + 128) :: r) = some (Char.ofNat n) :: partsFrom none r := by
  have hfirst : (UInt8.ofNat (n / 4096 % 16 + 224)).toNat = n / 4096 % 16 + 224 :=
    toNat_ofNat_of_lt (by omega)
  have hsecond : (UInt8.ofNat (n / 64 % 64 + 128)).toNat = n / 64 % 64 + 128 :=
    toNat_ofNat_of_lt (by omega)
  obtain ⟨hlow, hhigh, hbits⟩ := continues_ofNat n
  obtain ⟨l, u, hlead, hl, hu⟩ := lead_of_three (b := UInt8.ofNat (n / 4096 % 16 + 224))
    (s := UInt8.ofNat (n / 64 % 64 + 128)) (by omega) (by omega) (by omega) (by omega) (by omega)
    (by omega)
  have hn : ((n / 4096 % 16 + 224) % 16 * 64 + (n / 64 % 64 + 128) % 64) * 64 + n % 64 = n := by
    omega
  rw [partsFrom_of_lead hlead, partsFrom_next 0 hl hu, partsFrom_last hlow hhigh, hfirst, hsecond,
    hbits, hn]

theorem partsFrom_four (low : 0x10000 ≤ n) (high : n < 0x110000) (r : Bytes) :
    partsFrom none (UInt8.ofNat (n / 262144 % 8 + 240) :: UInt8.ofNat (n / 4096 % 64 + 128) ::
      UInt8.ofNat (n / 64 % 64 + 128) :: UInt8.ofNat (n % 64 + 128) :: r) =
      some (Char.ofNat n) :: partsFrom none r := by
  have hfirst : (UInt8.ofNat (n / 262144 % 8 + 240)).toNat = n / 262144 % 8 + 240 :=
    toNat_ofNat_of_lt (by omega)
  have hsecond : (UInt8.ofNat (n / 4096 % 64 + 128)).toNat = n / 4096 % 64 + 128 :=
    toNat_ofNat_of_lt (by omega)
  obtain ⟨hlow, hhigh, hbits⟩ := continues_ofNat n
  obtain ⟨hlow', hhigh', hbits'⟩ := continues_ofNat (n / 64)
  obtain ⟨l, u, hlead, hl, hu⟩ := lead_of_four (b := UInt8.ofNat (n / 262144 % 8 + 240))
    (s := UInt8.ofNat (n / 4096 % 64 + 128)) (by omega) (by omega) (by omega) (by omega) (by omega)
    (by omega)
  have hn : (((n / 262144 % 8 + 240) % 8 * 64 + (n / 4096 % 64 + 128) % 64) * 64 +
      n / 64 % 64) * 64 + n % 64 = n := by
    omega
  rw [partsFrom_of_lead hlead, partsFrom_next 1 hl hu, partsFrom_next 0 hlow' hhigh',
    partsFrom_last hlow hhigh, hfirst, hsecond, hbits', hbits, hn]

theorem partsFrom_utf8EncodeChar (c : Char) (r : Bytes) :
    partsFrom none (String.utf8EncodeChar c ++ r) = some c :: partsFrom none r := by
  have hvalid : c.val.toNat < 0xD800 ∨ 0xDFFF < c.val.toNat ∧ c.val.toNat < 0x110000 := c.valid
  have hc : Char.ofNat c.val.toNat = c := Char.ofNat_toNat c
  rw [String.utf8EncodeChar]
  generalize c.val.toNat = n at hvalid hc
  subst hc
  split
  · rename_i hone
    have hbyte : (UInt8.ofNat n).toNat = n := toNat_ofNat_of_lt (by omega)
    have ascii : UInt8.ofNat n < 0x80 := by
      rw [UInt8.lt_iff_toNat_lt, hbyte]
      exact Nat.lt_of_le_of_lt hone (by decide)
    have hlead := lead_of_ascii ascii
    rw [List.singleton_append, partsFrom, hlead, hbyte]
  · split
    · rename_i hone htwo
      exact partsFrom_two (by omega) htwo r
    · split
      · rename_i hone htwo hthree
        exact partsFrom_three (by omega) hthree (by omega) r
      · rename_i hone htwo hthree
        exact partsFrom_four (by omega) (by omega) r

/-- The bytes of a text are shown as that text. -/
theorem decodeLossy_encode (t : Text) : decodeLossy (encode t) = t := by
  have hparts : parts (encode t) = t.map some := by
    rw [parts, encode]
    induction t with
    | nil => rfl
    | cons c t ih => rw [List.flatMap_cons, partsFrom_utf8EncodeChar, ih, List.map_cons]
  rw [decodeLossy, hparts, List.map_map]
  exact List.map_id t

/-! ## ASCII -/

def Unfinished.least (u : Unfinished) : Nat :=
  (u.bits * 64 + u.low.toNat % 64) * 64 ^ (u.owed - 1)

/-- An unfinished character that cannot turn out to be an ASCII character. -/
structure Unfinished.Wide (u : Unfinished) : Prop where
  low : 0x80 ≤ u.low
  high : u.high ≤ 0xBF
  least : 0x80 ≤ u.least

theorem wide_of_lead {u : Unfinished} (h : lead b = .more u) : u.Wide := by
  simp only [lead, UInt8.lt_iff_toNat_lt, UInt8.le_iff_toNat_le, Bool.and_eq_true, beq_iff_eq,
    decide_eq_true_eq, ← UInt8.toNat_inj, UInt8.reduceToNat] at h
  split_ifs at h
  all_goals
    obtain rfl := Lead.more.inj h
    refine ⟨by simp, by simp, ?_⟩
    simp only [Unfinished.least, UInt8.reduceToNat]
    omega

/-- A byte that continues an unfinished character adds no less than the least one does. -/
theorem Unfinished.Wide.le_of_continues {u : Unfinished} (wide : u.Wide) (low : u.low ≤ b)
    (high : b ≤ u.high) : 0x80 ≤ (u.bits * 64 + b.toNat % 64) * 64 ^ (u.owed - 1) := by
  have hlow := UInt8.le_iff_toNat_le.mp wide.low
  have hhigh := UInt8.le_iff_toNat_le.mp (UInt8.le_trans high wide.high)
  have hb := UInt8.le_iff_toNat_le.mp low
  simp only [UInt8.reduceToNat] at hlow hhigh
  have hbits : u.low.toNat % 64 ≤ b.toNat % 64 := by omega
  exact Nat.le_trans wide.least (Nat.mul_le_mul_right _ (Nat.add_le_add_left hbits _))

theorem Unfinished.Wide.of_extend {u u' : Unfinished} (wide : u.Wide) (low : u.low ≤ b)
    (high : b ≤ u.high) (h : u.extend b = .more u') : u'.Wide := by
  have hleast := wide.le_of_continues low high
  obtain ⟨owed, l, r, bits⟩ := u
  match owed with
  | 0 | 1 => cases h
  | owed + 2 =>
    obtain rfl := Lead.more.inj h
    refine ⟨by simp, by simp, ?_⟩
    have hpow : (64 : Nat) ^ (owed + 1) = 64 * 64 ^ owed := Nat.pow_succ'
    have hleast' : 0x80 ≤ (bits * 64 + b.toNat % 64) * 64 ^ (owed + 1) := hleast
    rw [hpow, ← Nat.mul_assoc] at hleast'
    simpa [Unfinished.least] using hleast'

theorem Unfinished.Wide.exists_of_extend {u : Unfinished} {c : Char} (wide : u.Wide)
    (low : u.low ≤ b) (high : b ≤ u.high) (h : u.extend b = .char c) :
    ∃ n, 0x80 ≤ n ∧ c = Char.ofNat n := by
  have hleast := wide.le_of_continues low high
  obtain ⟨owed, l, r, bits⟩ := u
  match owed with
  | 0 | 1 =>
    refine ⟨bits * 64 + b.toNat % 64, ?_, (Lead.char.inj h).symm⟩
    exact Nat.le_trans hleast (Nat.le_of_eq (Nat.mul_one _))
  | owed + 2 => cases h

/-- No part of a character that takes several bytes is an ASCII character. -/
theorem mem_partsFrom (ascii : b < 0x80) {bytes : Bytes} (hb : b ∈ bytes)
    {pending : Option Unfinished} (wide : ∀ u ∈ pending, u.Wide) :
    some (Char.ofNat b.toNat) ∈ partsFrom pending bytes := by
  induction bytes generalizing pending with
  | nil => cases hb
  | cons a r ih =>
    have hfresh : some (Char.ofNat b.toNat) ∈ partsFrom none (a :: r) := by
      rw [partsFrom]
      rcases List.mem_cons.mp hb with rfl | hb
      · rw [lead_of_ascii ascii]
        exact List.mem_cons_self
      · split
        · exact List.mem_cons_of_mem _ (ih hb (by simp))
        · rename_i u hlead
          exact ih hb (by simpa using wide_of_lead hlead)
        · exact List.mem_cons_of_mem _ (ih hb (by simp))
    cases pending with
    | none => exact hfresh
    | some u =>
      rw [partsFrom]
      split
      · rename_i hcontinues
        simp only [Bool.and_eq_true, decide_eq_true_eq] at hcontinues
        obtain ⟨low, high⟩ := hcontinues
        have hu := wide u rfl
        have hne : b ≠ a := by
          rintro rfl
          exact absurd ascii (UInt8.not_lt.mpr (UInt8.le_trans hu.low low))
        have hb' : b ∈ r := (List.mem_cons.mp hb).resolve_left hne
        split
        · exact List.mem_cons_of_mem _ (ih hb' (by simp))
        · rename_i u' hextend
          exact ih hb' (by simpa using hu.of_extend low high hextend)
        · exact List.mem_cons_of_mem _ (ih hb' (by simp))
      · exact List.mem_cons_of_mem _ hfresh

theorem mem_decodeLossy (ascii : b < 0x80) {bytes : Bytes} (hb : b ∈ bytes) :
    Char.ofNat b.toNat ∈ decodeLossy bytes :=
  List.mem_map.mpr ⟨_, mem_partsFrom ascii hb (by simp), rfl⟩

theorem toNat_ofNat_of_isValidChar {n : Nat} (valid : n.isValidChar) :
    (Char.ofNat n).toNat = n := by
  rw [Char.ofNat, dif_pos valid]
  rfl

theorem toNat_ofNat_of_ascii (ascii : b < 0x80) : (Char.ofNat b.toNat).toNat = b.toNat := by
  have hb : b.toNat < 0x80 := UInt8.lt_iff_toNat_lt.mp ascii
  exact toNat_ofNat_of_isValidChar (.inl (by omega))

theorem ofNat_ne_of_ascii (ascii : b < 0x80) (nonzero : b ≠ 0) {n : Nat} (h : 0x80 ≤ n) :
    Char.ofNat b.toNat ≠ Char.ofNat n := by
  intro heq
  have hb : b.toNat < 0x80 := UInt8.lt_iff_toNat_lt.mp ascii
  have hnat := congrArg Char.toNat heq
  rw [toNat_ofNat_of_ascii ascii] at hnat
  by_cases valid : n.isValidChar
  · rw [toNat_ofNat_of_isValidChar valid] at hnat
    omega
  · have hzero : (Char.ofNat n).toNat = 0 := by rw [Char.ofNat, dif_neg valid]; rfl
    exact nonzero (UInt8.toNat_inj.mp (hnat.trans hzero))

theorem eq_of_lead (ascii : b < 0x80) {a : UInt8} (h : lead a = .char (Char.ofNat b.toNat)) :
    a = b := by
  by_cases ha : a < 0x80
  · rw [lead_of_ascii ha] at h
    have hnat := congrArg Char.toNat (Lead.char.inj h)
    rw [toNat_ofNat_of_ascii ha, toNat_ofNat_of_ascii ascii] at hnat
    exact UInt8.toNat_inj.mp hnat
  · simp only [lead, ha, if_false] at h
    split_ifs at h

/-- Nothing that takes several bytes is shown as an ASCII character. -/
theorem mem_of_mem_partsFrom (ascii : b < 0x80) (nonzero : b ≠ 0) {bytes : Bytes}
    {pending : Option Unfinished} (wide : ∀ u ∈ pending, u.Wide)
    (h : some (Char.ofNat b.toNat) ∈ partsFrom pending bytes) : b ∈ bytes := by
  -- Every unfinished character on the way is wide, so only a byte between characters can show it.
  induction bytes generalizing pending with
  | nil => cases pending <;> simp [partsFrom] at h
  | cons a r ih =>
    have hfresh : some (Char.ofNat b.toNat) ∈ partsFrom none (a :: r) → b ∈ a :: r := by
      intro h
      rw [partsFrom] at h
      split at h
      · rename_i c hlead
        rcases List.mem_cons.mp h with hc | h
        · obtain rfl := Option.some.inj hc
          exact List.mem_cons.mpr (.inl (eq_of_lead ascii hlead).symm)
        · exact List.mem_cons_of_mem _ (ih (by simp) h)
      · rename_i u hlead
        exact List.mem_cons_of_mem _ (ih (by simpa using wide_of_lead hlead) h)
      · exact List.mem_cons_of_mem _ (ih (by simp) (List.mem_of_ne_of_mem (by simp) h))
    cases pending with
    | none => exact hfresh h
    | some u =>
      rw [partsFrom] at h
      split at h
      · rename_i hcontinues
        simp only [Bool.and_eq_true, decide_eq_true_eq] at hcontinues
        obtain ⟨low, high⟩ := hcontinues
        have hu := wide u rfl
        split at h
        · rename_i c hextend
          obtain ⟨n, hn, rfl⟩ := hu.exists_of_extend low high hextend
          have hne := ofNat_ne_of_ascii ascii nonzero hn
          exact List.mem_cons_of_mem _ (ih (by simp) (List.mem_of_ne_of_mem (by simpa using hne) h))
        · rename_i u' hextend
          exact List.mem_cons_of_mem _ (ih (by simpa using hu.of_extend low high hextend) h)
        · exact List.mem_cons_of_mem _ (ih (by simp) (List.mem_of_ne_of_mem (by simp) h))
      · exact hfresh (List.mem_of_ne_of_mem (by simp) h)

theorem mem_of_mem_decodeLossy (ascii : b < 0x80) (nonzero : b ≠ 0) {bytes : Bytes}
    (h : Char.ofNat b.toNat ∈ decodeLossy bytes) : b ∈ bytes := by
  obtain ⟨part, hpart, hshown⟩ := List.mem_map.mp h
  cases part with
  | some c =>
    obtain rfl : c = Char.ofNat b.toNat := hshown
    exact mem_of_mem_partsFrom ascii nonzero (by simp) hpart
  | none => exact absurd hshown.symm (ofNat_ne_of_ascii ascii nonzero (by decide : 0x80 ≤ 0xFFFD))

end Text

@[simp] theorem Path.display_ofText (t : Text) : (Path.ofText t).display = t :=
  Text.decodeLossy_encode t

end Runbook
