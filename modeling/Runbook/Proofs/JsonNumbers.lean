import Mathlib.Data.List.TakeWhile
import Mathlib.Tactic.Positivity
import Runbook.Json.Printer
import Runbook.Json.Reader

/-! # Numbers in JSON text

A number is read alike whether its text ends or a comma or a closing bracket follows. Whole numbers
of 64 bits are read back as they were.
-/
namespace Runbook.Json

/-- Nothing follows a value, or what may follow it in an array or an object. -/
def Delimited (rest : Text) : Prop :=
  ∀ c ∈ rest.head?, c = ',' ∨ c = ']' ∨ c = '\x7d'

theorem delimited_nil : Delimited [] := by
  intro c hc
  cases hc

theorem Delimited.cases {rest : Text} (h : Delimited rest) :
    rest = [] ∨ ∃ c t, rest = c :: t ∧ (c = ',' ∨ c = ']' ∨ c = '\x7d') := by
  cases rest with
  | nil => exact .inl rfl
  | cons c t => exact .inr ⟨c, t, rfl, h c rfl⟩

theorem Delimited.takeWhile_append {rest : Text} (h : Delimited rest) (t : Text) :
    (t ++ rest).takeWhile Char.isDigit = t.takeWhile Char.isDigit := by
  induction t with
  | nil =>
    obtain rfl | ⟨c, t, rfl, rfl | rfl | rfl⟩ := h.cases <;> rfl
  | cons c t ih => rw [List.cons_append, List.takeWhile_cons, List.takeWhile_cons, ih]

theorem Delimited.dropWhile_append {rest : Text} (h : Delimited rest) (t : Text) :
    (t ++ rest).dropWhile Char.isDigit = t.dropWhile Char.isDigit ++ rest := by
  induction t with
  | nil =>
    obtain rfl | ⟨c, t, rfl, rfl | rfl | rfl⟩ := h.cases <;> rfl
  | cons c t ih =>
    rw [List.cons_append, List.dropWhile_cons, List.dropWhile_cons, ih]
    split <;> rfl

/-! ## What follows a number -/

variable {negative : Bool} {significand dropped : Nat} {e : Int} {t rest : Text} {v : Json}

theorem readReal_append (h : readReal negative significand e t = .ok (v, [])) (rest : Text) :
    readReal negative significand e (t ++ rest) = .ok (v, rest) := by
  unfold readReal at h ⊢
  split at h
  · cases h
    rfl
  · cases h

theorem readExponentDigits_append {down : Bool}
    (h : readExponentDigits negative significand e down t = .ok (v, []))
    (delimited : Delimited rest) :
    readExponentDigits negative significand e down (t ++ rest) = .ok (v, rest) := by
  cases t with
  | nil => cases h
  | cons c t =>
    rw [List.cons_append]
    unfold readExponentDigits at h ⊢
    simp only [← List.cons_append, delimited.takeWhile_append, delimited.dropWhile_append] at h ⊢
    split at h
    · cases h
    · rename_i hc
      rw [if_neg hc]
      split at h
      · exact readReal_append h rest
      · split at h
        · cases h
        · rename_i hzero
          obtain ⟨rfl, hrest⟩ := Prod.mk.inj (Except.ok.inj h)
          rw [if_neg hzero, hrest, List.nil_append]

theorem exponentSign_append (ht : t ≠ []) (rest : Text) :
    exponentSign (t ++ rest) = ((exponentSign t).1, (exponentSign t).2 ++ rest) := by
  obtain ⟨c, u, rfl⟩ := List.exists_cons_of_ne_nil ht
  rw [List.cons_append]
  unfold exponentSign
  by_cases hplus : c = '+'
  · subst hplus
    rfl
  by_cases hminus : c = '-'
  · subst hminus
    rfl
  simp [hplus, hminus]

theorem readExponent_append (h : readExponent negative significand e t = .ok (v, []))
    (delimited : Delimited rest) :
    readExponent negative significand e (t ++ rest) = .ok (v, rest) := by
  have ht : t ≠ [] := by
    rintro rfl
    cases h
  rw [readExponent, exponentSign_append ht]
  exact readExponentDigits_append h delimited

theorem readFraction_append (h : readFraction negative significand e t = .ok (v, []))
    (delimited : Delimited rest) :
    readFraction negative significand e (t ++ rest) = .ok (v, rest) := by
  unfold readFraction at h ⊢
  rw [delimited.takeWhile_append, delimited.dropWhile_append]
  simp only [] at h ⊢
  split at h
  · split at h <;> cases h
  · rename_i hdigits
    rw [if_neg hdigits]
    generalize t.dropWhile Char.isDigit = after at h ⊢
    cases after with
    | nil =>
      have hreal := readReal_append h rest
      obtain rfl | ⟨c, u, rfl, rfl | rfl | rfl⟩ := delimited.cases <;> exact hreal
    | cons c u =>
      by_cases hsmall : c = 'e'
      · subst hsmall
        exact readExponent_append h delimited
      by_cases hcapital : c = 'E'
      · subst hcapital
        exact readExponent_append h delimited
      have hreal := readReal_append (by simpa [hsmall, hcapital] using h) rest
      simpa [hsmall, hcapital] using hreal

theorem readWhole_append (h : readWhole negative significand dropped t = .ok (v, []))
    (rest : Text) : readWhole negative significand dropped (t ++ rest) = .ok (v, rest) := by
  unfold readWhole at h ⊢
  split at h
  · rename_i hdropped
    rw [if_pos hdropped]
    exact readReal_append h rest
  · rename_i hdropped
    rw [if_neg hdropped]
    split at h
    · rename_i hpositive
      obtain ⟨rfl, rfl⟩ := Prod.mk.inj (Except.ok.inj h)
      rw [if_pos hpositive, List.nil_append]
    · rename_i hpositive
      rw [if_neg hpositive]
      split at h
      · rename_i hfar
        rw [if_pos hfar]
        exact readReal_append h rest
      · rename_i hfar
        obtain ⟨rfl, rfl⟩ := Prod.mk.inj (Except.ok.inj h)
        rw [if_neg hfar, List.nil_append]

theorem readTail_of_delimited (delimited : Delimited rest) :
    readTail negative significand dropped rest = readWhole negative significand dropped rest := by
  obtain rfl | ⟨c, u, rfl, rfl | rfl | rfl⟩ := delimited.cases <;> rfl

theorem readTail_append (h : readTail negative significand dropped t = .ok (v, []))
    (delimited : Delimited rest) :
    readTail negative significand dropped (t ++ rest) = .ok (v, rest) := by
  cases t with
  | nil =>
    rw [readTail_of_delimited delimited_nil] at h
    rw [List.nil_append, readTail_of_delimited delimited]
    exact readWhole_append h rest
  | cons c t =>
    rw [List.cons_append]
    unfold readTail at h ⊢
    by_cases hpoint : c = '.'
    · subst hpoint
      exact readFraction_append h delimited
    by_cases hsmall : c = 'e'
    · subst hsmall
      exact readExponent_append h delimited
    by_cases hcapital : c = 'E'
    · subst hcapital
      exact readExponent_append h delimited
    have hwhole := readWhole_append (by simpa [hpoint, hsmall, hcapital] using h) rest
    simpa [hpoint, hsmall, hcapital] using hwhole

theorem readNumber_zero (h : ∀ c ∈ t.head?, c.isDigit = false) :
    readNumber negative ('0' :: t) = readTail negative 0 0 t := by
  cases t with
  | nil => rfl
  | cons c t =>
    have hc : c.isDigit = false := h c rfl
    simp [readNumber, hc]

theorem readNumber_digits {c : Char} (hc : c.isDigit = true) (hzero : c ≠ '0') :
    readNumber negative (c :: t) =
      readTail negative (absorb 0 ((c :: t).takeWhile Char.isDigit)).1
        (absorb 0 ((c :: t).takeWhile Char.isDigit)).2.length
        ((c :: t).dropWhile Char.isDigit) := by
  unfold readNumber
  simp [hc]

theorem Delimited.not_isDigit (delimited : Delimited rest) :
    ∀ c ∈ rest.head?, c.isDigit = false := by
  intro c hc
  obtain rfl | rfl | rfl := delimited c hc <;> rfl

theorem readNumber_append (h : readNumber negative t = .ok (v, [])) (delimited : Delimited rest) :
    readNumber negative (t ++ rest) = .ok (v, rest) := by
  cases t with
  | nil => cases h
  | cons c t =>
    by_cases hzero : c = '0'
    · subst hzero
      have hhead : ∀ d ∈ t.head?, d.isDigit = false := by
        intro d hd
        obtain ⟨u, rfl⟩ : ∃ u, t = d :: u := List.head?_eq_some_iff.mp hd
        by_contra hdigit
        rw [Bool.not_eq_false] at hdigit
        simp [readNumber, hdigit, stopAfterByte] at h
      have hhead' : ∀ d ∈ (t ++ rest).head?, d.isDigit = false := by
        cases t with
        | nil => exact delimited.not_isDigit
        | cons d u => exact hhead
      rw [readNumber_zero hhead] at h
      rw [List.cons_append, readNumber_zero hhead']
      exact readTail_append h delimited
    · have hc : c.isDigit = true := by
        by_contra hdigit
        rw [Bool.not_eq_true] at hdigit
        unfold readNumber at h
        simp [hdigit, stopAfterByte] at h
      rw [readNumber_digits hc hzero] at h
      rw [List.cons_append, readNumber_digits hc hzero, ← List.cons_append,
        delimited.takeWhile_append, delimited.dropWhile_append]
      exact readTail_append h delimited

theorem isSpace_eq_false {c : Char} (h : c.isDigit = true) : isSpace c = false := by
  rw [Bool.eq_false_iff]
  intro hspace
  simp only [isSpace, Bool.or_eq_true, beq_iff_eq] at hspace
  obtain ((rfl | rfl) | rfl) | rfl := hspace <;> cases h

theorem readWord_value {value : Json} {word left : Text}
    (h : readWord value word t = .ok (v, left)) : v = value := by
  induction word generalizing t with
  | nil =>
    obtain ⟨rfl, -⟩ := Prod.mk.inj (Except.ok.inj h)
    rfl
  | cons w word ih =>
    cases t with
    | nil => cases h
    | cons c t =>
      rw [readWord] at h
      split at h
      · exact ih h
      · cases h

theorem skipSpace_append {c : Char} {u : Text} (h : skipSpace t = c :: u) (rest : Text) :
    skipSpace (t ++ rest) = c :: (u ++ rest) := by
  have hne : t.dropWhile isSpace ≠ [] := by
    intro hnil
    rw [skipSpace, hnil] at h
    cases h
  rw [skipSpace, List.dropWhile_append, if_neg (by simpa using hne)]
  exact congrArg (· ++ rest) h

theorem readValue_eq_number {n : Number} {fuel : Nat}
    (h : readValue (fuel + 1) 1 t = .ok (.number n, [])) :
    (∃ u, skipSpace t = '-' :: u ∧ readNumber true u = .ok (.number n, [])) ∨
      ∃ c u, skipSpace t = c :: u ∧ c.isDigit = true ∧
        readNumber false (c :: u) = .ok (.number n, []) := by
  rw [readValue] at h
  split at h
  · cases h
  · exact absurd (readWord_value h) (by simp)
  · exact absurd (readWord_value h) (by simp)
  · exact absurd (readWord_value h) (by simp)
  · rename_i u hu
    exact .inl ⟨u, hu, h⟩
  · split at h <;> cases h
  · cases h
  · cases h
  · rename_i c u _ _ _ _ _ _ _ hu
    split at h
    · rename_i hc
      exact .inr ⟨c, u, hu, hc, h⟩
    · cases h

theorem readValue_of_minus {fuel depth : Nat} {u : Text} (h : skipSpace t = '-' :: u) :
    readValue (fuel + 1) depth t = readNumber true u := by
  rw [readValue, h]
  rfl

theorem readValue_of_digit {fuel depth : Nat} {c : Char} {u : Text} (h : skipSpace t = c :: u)
    (hc : c.isDigit = true) : readValue (fuel + 1) depth t = readNumber false (c :: u) := by
  have hne : ∀ d : Char, d.isDigit = false → c ≠ d := by
    rintro d hd rfl
    rw [hc] at hd
    cases hd
  rw [readValue, h]
  simp [hc, hne 'n' rfl, hne 't' rfl, hne 'f' rfl, hne '-' rfl, hne '"' rfl, hne '[' rfl,
    hne '\x7b' rfl]

/-- What is read as a number is read as the same number where other text follows, at any depth. -/
theorem readValue_number_append {n : Number} (h : readValue 1 1 t = .ok (.number n, []))
    (delimited : Delimited rest) (fuel depth : Nat) :
    readValue (fuel + 1) depth (t ++ rest) = .ok (.number n, rest) := by
  obtain ⟨u, hu, hnumber⟩ | ⟨c, u, hu, hc, hnumber⟩ := readValue_eq_number h
  · rw [readValue_of_minus (skipSpace_append hu rest)]
    exact readNumber_append hnumber delimited
  · rw [readValue_of_digit (skipSpace_append hu rest) hc]
    exact readNumber_append hnumber delimited

/-! ## Whole numbers -/

theorem le_ofDigitChars (t : Text) (n : Nat) : n ≤ Nat.ofDigitChars 10 t n := by
  rw [Nat.ofDigitChars_eq_ofDigitChars_zero]
  have h : n ≤ 10 ^ t.length * n := Nat.le_mul_of_pos_left n (by positivity)
  omega

theorem absorb_of_le {n : Nat} {t : Text} (h : Nat.ofDigitChars 10 t n ≤ wordMax) :
    absorb n t = (Nat.ofDigitChars 10 t n, []) := by
  induction t generalizing n with
  | nil => rfl
  | cons c t ih =>
    rw [Nat.ofDigitChars_cons, Nat.mul_comm 10 n] at h ⊢
    have hstep : n * 10 + (c.toNat - '0'.toNat) ≤ wordMax := (le_ofDigitChars t _).trans h
    rw [absorb]
    simp only [if_pos hstep, ih h]

theorem isDigit_of_mem_ofNat {n : Nat} {c : Char} (h : c ∈ Text.ofNat n) : c.isDigit = true :=
  Nat.isDigit_of_mem_toDigits (by decide) (by decide) h

theorem head?_ofNat {n : Nat} (hn : n ≠ 0) : (Text.ofNat n).head? ≠ some '0' := by
  induction n using Nat.strongRecOn with
  | ind n ih =>
    rw [Text.ofNat]
    by_cases hlt : n < 10
    · rw [Nat.toDigits_of_lt_base hlt]
      simpa using hn
    · rw [Nat.toDigits_of_base_le (by decide) (by omega),
        List.head?_append_of_ne_nil _ Nat.toDigits_ne_nil]
      exact ih (n / 10) (by omega) (by omega)

theorem ofNat_ne_nil (n : Nat) : Text.ofNat n ≠ [] := Nat.toDigits_ne_nil

theorem takeWhile_ofNat (n : Nat) : (Text.ofNat n).takeWhile Char.isDigit = Text.ofNat n :=
  List.takeWhile_eq_self_iff.mpr fun _ hc => isDigit_of_mem_ofNat hc

theorem dropWhile_ofNat (n : Nat) : (Text.ofNat n).dropWhile Char.isDigit = [] :=
  List.dropWhile_eq_nil_iff.mpr fun _ hc => isDigit_of_mem_ofNat hc

theorem readNumber_ofNat {n : Nat} (h : n ≤ wordMax) :
    readNumber negative (Text.ofNat n) = readWhole negative n 0 [] := by
  by_cases hn : n = 0
  · subst hn
    rfl
  · obtain ⟨c, t, ht⟩ := List.exists_cons_of_ne_nil (ofNat_ne_nil n)
    have hc : c.isDigit = true := isDigit_of_mem_ofNat (ht ▸ List.mem_cons_self)
    have hzero : c ≠ '0' := by
      rintro rfl
      exact head?_ofNat hn (by rw [ht]; rfl)
    have hvalue : Nat.ofDigitChars 10 (Text.ofNat n) 0 = n := Nat.ofDigitChars_ten_toDigits
    have habsorb : absorb 0 (Text.ofNat n) = (n, []) := by
      rw [absorb_of_le (hvalue.symm ▸ h), hvalue]
    have hnumber : readNumber negative (c :: t) = _ := readNumber_digits hc hzero
    rw [← ht, takeWhile_ofNat, dropWhile_ofNat, habsorb] at hnumber
    exact hnumber.trans (readTail_of_delimited delimited_nil)

/-- A whole number of 64 bits is read back from its text. -/
theorem readValue_ofInt {n : Int} (low : -2 ^ 63 ≤ n) (high : n < 2 ^ 64) :
    readValue 1 1 (Text.ofInt n) = .ok (.number (.whole n), []) := by
  cases n with
  | ofNat n =>
    have hmax : n ≤ wordMax := by
      have hword : wordMax = 2 ^ 64 - 1 := rfl
      rw [Int.ofNat_eq_natCast] at high
      omega
    obtain ⟨c, t, ht⟩ := List.exists_cons_of_ne_nil (ofNat_ne_nil n)
    have hc : c.isDigit = true := isDigit_of_mem_ofNat (ht ▸ List.mem_cons_self)
    have hspace : skipSpace (Text.ofNat n) = c :: t := by
      rw [ht, skipSpace, List.dropWhile_cons, isSpace_eq_false hc]
      rfl
    rw [Text.ofInt, readValue_of_digit hspace hc, ← ht, readNumber_ofNat hmax]
    rfl
  | negSucc n =>
    have hmin : n + 1 ≤ 2 ^ 63 := by omega
    have hmax : n + 1 ≤ wordMax := by
      have hword : wordMax = 2 ^ 64 - 1 := rfl
      omega
    have hspace : skipSpace (Text.ofInt (.negSucc n)) = '-' :: Text.ofNat (n + 1) := rfl
    have hnear : ¬ (n + 1 = 0 ∨ Nat.pow 2 63 < n + 1) := by
      have hpow : Nat.pow 2 63 = 2 ^ 63 := rfl
      omega
    rw [readValue_of_minus hspace, readNumber_ofNat hmax, readWhole, if_neg (by decide),
      if_neg (by decide), if_neg hnear]
    rfl

/-! ## The characters of numbers -/

def Numeric (c : Char) : Prop := c.isDigit = true ∨ c ∈ ['.', 'e', '+', '-']

instance (c : Char) : Decidable (Numeric c) :=
  inferInstanceAs (Decidable (c.isDigit = true ∨ c ∈ ['.', 'e', '+', '-']))

theorem numeric_ofNat (n : Nat) : ∀ c ∈ Text.ofNat n, Numeric c :=
  fun _ hc => .inl (isDigit_of_mem_ofNat hc)

theorem numeric_replicate_zero (k : Nat) : ∀ c ∈ List.replicate k '0', Numeric c := by
  intro c hc
  rw [List.eq_of_mem_replicate hc]
  exact .inl rfl

theorem numeric_positional (d : Decimal.Scaled) : ∀ c ∈ d.positional, Numeric c := by
  have hdigits := numeric_ofNat d.digits
  rw [Decimal.Scaled.positional]
  split
  · rw [List.forall_mem_append, List.forall_mem_append]
    exact ⟨⟨hdigits, numeric_replicate_zero _⟩, by simp [Numeric]⟩
  · have hpadded : ∀ k, ∀ c ∈ List.replicate k '0' ++ Text.ofNat d.digits, Numeric c :=
      fun k => List.forall_mem_append.mpr ⟨numeric_replicate_zero k, hdigits⟩
    rw [List.forall_mem_append, List.forall_mem_cons]
    exact ⟨fun c hc => hpadded _ c (List.mem_of_mem_take hc), by decide,
      fun c hc => hpadded _ c (List.mem_of_mem_drop hc)⟩

theorem numeric_scientific (d : Decimal.Scaled) : ∀ c ∈ d.scientific, Numeric c := by
  have hdigits := numeric_ofNat d.digits
  have hsign : Numeric (if d.leading < 0 then '-' else '+') := by
    split <;> decide
  rw [Decimal.Scaled.scientific]
  simp only [List.forall_mem_append, List.forall_mem_cons]
  refine ⟨?_, by decide, hsign, numeric_ofNat _⟩
  split
  · rename_i heq
    exact heq ▸ hdigits
  · rename_i heq
    obtain ⟨hfirst, hrest⟩ := List.forall_mem_cons.mp (heq ▸ hdigits)
    exact List.forall_mem_cons.mpr ⟨hfirst, List.forall_mem_cons.mpr ⟨by decide, hrest⟩⟩
  · exact List.forall_mem_nil _

theorem numeric_text (n : Number) : ∀ c ∈ n.text, Numeric c := by
  cases n with
  | whole n =>
    cases n with
    | ofNat n => exact numeric_ofNat n
    | negSucc n => exact List.forall_mem_cons.mpr ⟨by decide, numeric_ofNat (n + 1)⟩
  | real x =>
    have hdigits : ∀ c ∈ (if -5 ≤ x.shortest.leading ∧ x.shortest.leading < 16
        then x.shortest.positional else x.shortest.scientific), Numeric c := by
      split
      · exact numeric_positional _
      · exact numeric_scientific _
    rw [Number.text, realText]
    split
    · exact List.forall_mem_cons.mpr ⟨by decide, hdigits⟩
    · exact hdigits

end Runbook.Json
