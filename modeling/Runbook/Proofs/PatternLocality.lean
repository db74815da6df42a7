import Runbook.Proofs.PatternReading

/-! # Patterns with a dollar sign after them

What a token is does not depend on a dollar sign that follows the pattern. In a comment at the end
of the pattern the sign is a part of the comment.
-/
namespace Runbook.Pattern

/-- A place in a pattern and in the pattern with a dollar sign after it. -/
inductive Followed : Scan → Scan → Prop
  | shown (s : Scan) : Followed s (s.move (s.rest ++ ['$']))
  | hidden {s : Scan} (ended : s.rest = []) (verbose : s.flags.verbose = true) : Followed s s

/-- The reader reads the same where a dollar sign follows. -/
def Local {α : Type} (read : Scan → Option (α × Scan)) : Prop :=
  ∀ ⦃s t : Scan⦄, Followed s t → ∀ ⦃a : α⦄ ⦃s' : Scan⦄, read s = some (a, s') →
    ∃ t', read t = some (a, t') ∧ Followed s' t'

/-- The same of a reader that is given a number of rounds, and may need one more. -/
def LocalIn {α : Type} (read : Nat → Scan → Option (α × Scan)) : Prop :=
  ∀ ⦃fuel fuel' : Nat⦄, fuel ≤ fuel' → ∀ ⦃s t : Scan⦄, Followed s t → ∀ ⦃a : α⦄ ⦃s' : Scan⦄,
    read fuel s = some (a, s') → ∃ t', read fuel' t = some (a, t') ∧ Followed s' t'

variable {s t s' : Scan} {c : Char} {u : Text}

/-! ## Places -/

@[simp] theorem Scan.move_rest (s : Scan) (u : Text) : (s.move u).rest = u := rfl

@[simp] theorem Scan.move_flags (s : Scan) (u : Text) : (s.move u).flags = s.flags := rfl

@[simp] theorem Scan.onto_flags (s : Scan) (u : Text) : (s.onto u).flags = s.flags := rfl

@[simp] theorem Scan.move_move (s : Scan) (u v : Text) : (s.move u).move v = s.move v := rfl

@[simp] theorem Scan.move_onto (s : Scan) (u v : Text) : (s.move u).onto v = s.onto v := rfl

@[simp] theorem Scan.peek?_move (s : Scan) (u v : Text) : (s.move u).peek? v = s.peek? v := rfl

theorem Followed.flags_eq (h : Followed s t) : t.flags = s.flags := by
  cases h <;> rfl

theorem Followed.eq_move (h : Followed s t) (hs : s.rest = c :: u) :
    t = s.move (c :: (u ++ ['$'])) := by
  cases h with
  | shown => rw [hs, List.cons_append]
  | hidden ended => cases hs.symm.trans ended

theorem followed_move (s : Scan) (u : Text) : Followed (s.move u) (s.move (u ++ ['$'])) :=
  .shown (s.move u)

theorem skipBlanks_dollar (inComment : Bool) (u : Text) :
    skipBlanks inComment (u ++ ['$']) = skipBlanks inComment u ++ ['$'] ∨
      (skipBlanks inComment u = [] ∧ skipBlanks inComment (u ++ ['$']) = []) := by
  induction u generalizing inComment with
  | nil => cases inComment <;> decide
  | cons c u ih =>
    rw [List.cons_append, skipBlanks, skipBlanks]
    split
    · exact ih _
    · split
      · exact ih _
      · split
        · exact ih _
        · exact .inl rfl

theorem followed_onto (s : Scan) (u : Text) : Followed (s.onto u) (s.onto (u ++ ['$'])) := by
  rw [Scan.onto, Scan.onto]
  by_cases hverbose : s.flags.verbose = true
  · rw [if_pos hverbose, if_pos hverbose]
    rcases skipBlanks_dollar false u with h | ⟨h, h'⟩
    · rw [h]
      exact followed_move s _
    · rw [h, h']
      exact .hidden rfl hverbose
  · rw [if_neg hverbose, if_neg hverbose]
    exact followed_move s u

theorem dropWhile_blank_dollar (u : Text) :
    (u ++ ['$']).dropWhile Text.isBlank = u.dropWhile Text.isBlank ++ ['$'] := by
  induction u with
  | nil => decide
  | cons c u ih =>
    rw [List.cons_append, List.dropWhile_cons, List.dropWhile_cons]
    split
    · exact ih
    · rfl

/-! ## Escapes -/

theorem readHexDigits_local (count value : Nat) : Local (readHexDigits count value) := by
  induction count generalizing value with
  | zero =>
    rintro s t h a s' ⟨⟩
    exact ⟨t, rfl, h⟩
  | succ count ih =>
    intro s t h a s' read
    cases hs : s.rest with
    | nil => simp [readHexDigits, hs] at read
    | cons c u =>
      obtain rfl := h.eq_move hs
      cases hd : hexValue? c with
      | none => simp [readHexDigits, hs, hd] at read
      | some d =>
        simp only [readHexDigits, hs, hd] at read
        obtain ⟨t', ht', h'⟩ := ih _ (followed_onto s u) read
        exact ⟨t', by simpa [readHexDigits, hd] using ht', h'⟩

theorem readHexBraced_local (digits value : Nat) :
    LocalIn fun fuel => readHexBraced fuel digits value := by
  intro fuel
  induction fuel generalizing digits value with
  | zero =>
    intro fuel' _ s t _ a s' read
    cases read
  | succ fuel ih =>
    intro fuel' hle s t h a s' read
    obtain ⟨fuel', rfl⟩ := Nat.exists_eq_add_one_of_ne_zero (n := fuel') (by omega)
    cases hs : s.rest with
    | nil => simp [readHexBraced, hs] at read
    | cons c u =>
      obtain rfl := h.eq_move hs
      by_cases hc : c = '\x7d'
      · subst hc
        simp only [readHexBraced, hs] at read
        obtain ⟨hdigits, hread⟩ := Option.ite_none_left_eq_some.mp read
        obtain ⟨rfl, rfl⟩ := Prod.mk.inj (Option.some.inj hread)
        exact ⟨_, by simp [readHexBraced, hdigits], followed_onto s u⟩
      · cases hd : hexValue? c with
        | none => simp [readHexBraced, hs, hd] at read
        | some d =>
          simp only [readHexBraced, hs, hd] at read
          obtain ⟨t', ht', h'⟩ := ih _ _ (Nat.le_of_succ_le_succ hle) (followed_onto s u) read
          exact ⟨t', by simpa [readHexBraced, hc, hd] using ht', h'⟩

theorem readBraced_local (done : Text) : LocalIn fun fuel => readBraced fuel done := by
  intro fuel
  induction fuel generalizing done with
  | zero =>
    intro fuel' _ s t _ a s' read
    cases read
  | succ fuel ih =>
    intro fuel' hle s t h a s' read
    obtain ⟨fuel', rfl⟩ := Nat.exists_eq_add_one_of_ne_zero (n := fuel') (by omega)
    cases hs : s.rest with
    | nil => simp [readBraced, hs] at read
    | cons c u =>
      obtain rfl := h.eq_move hs
      by_cases hc : c = '\x7d'
      · subst hc
        simp only [readBraced, hs] at read
        obtain ⟨rfl, rfl⟩ := Prod.mk.inj (Option.some.inj read)
        exact ⟨_, by simp [readBraced], followed_move s u⟩
      · simp only [readBraced, hs] at read
        obtain ⟨t', ht', h'⟩ := ih _ (Nat.le_of_succ_le_succ hle) (followed_onto s u) read
        exact ⟨t', by simpa [readBraced, hc] using ht', h'⟩

/-- What a place begins with is shown in the longer pattern too. -/
theorem Followed.starts_iff (h : Followed s t) (hc : c ≠ '$') :
    (∃ u, t.rest = c :: u) ↔ ∃ u, s.rest = c :: u := by
  cases h with
  | hidden => exact Iff.rfl
  | shown =>
    cases hs : s.rest with
    | nil => simp [Ne.symm hc]
    | cons d u => simp

theorem succ_length_le_dollar (u : Text) : u.length + 1 ≤ (u ++ ['$']).length + 1 := by
  simp

theorem readHexEscape_local (width : Nat) : Local (readHexEscape width) := by
  intro s t h a s' read
  by_cases hbrace : ∃ u, s.rest = '\x7b' :: u
  · obtain ⟨u, hs⟩ := hbrace
    obtain rfl := h.eq_move hs
    simp only [readHexEscape, hs] at read
    split at read
    · rename_i n s₁ hread
      obtain ⟨d, hd, he⟩ := Option.map_eq_some_iff.mp read
      obtain ⟨rfl, rfl⟩ := Prod.mk.inj he
      obtain ⟨t', ht', h'⟩ :=
        readHexBraced_local 0 0 (succ_length_le_dollar u) (followed_onto s u) hread
      exact ⟨t', by simp only [readHexEscape, Scan.move_rest, Scan.move_onto, ht', hd]; rfl, h'⟩
    · cases read
  · have hbrace' : ¬ ∃ u, t.rest = '\x7b' :: u := fun ht =>
      hbrace ((h.starts_iff (by decide)).mp ht)
    rw [readHexEscape] at read ⊢
    split at read
    · rename_i u hs
      exact absurd ⟨u, hs⟩ hbrace
    · split at read
      · rename_i n s₁ hread
        obtain ⟨d, hd, he⟩ := Option.map_eq_some_iff.mp read
        obtain ⟨rfl, rfl⟩ := Prod.mk.inj he
        obtain ⟨t', ht', h'⟩ := readHexDigits_local width 0 h hread
        refine ⟨t', ?_, h'⟩
        split
        · rename_i u ht
          exact absurd ⟨u, ht⟩ hbrace'
        · simp [ht', hd]
      · cases read

theorem readUnicodeClass_local (negated : Bool) : Local (readUnicodeClass negated) := by
  intro s t h a s' read
  cases hs : s.rest with
  | nil => simp [readUnicodeClass, hs] at read
  | cons c u =>
    obtain rfl := h.eq_move hs
    by_cases hbrace : c = '\x7b'
    · subst hbrace
      simp only [readUnicodeClass, hs] at read
      cases hread : readBraced (u.length + 1) [] (s.onto u) with
      | none => simp [hread] at read
      | some p =>
        obtain ⟨name, s₁⟩ := p
        obtain ⟨t', ht', h'⟩ :=
          readBraced_local [] (succ_length_le_dollar u) (followed_onto s u) hread
        cases hset : braced? name with
        | none => simp [hread, hset] at read
        | some k =>
          simp only [hread, hset, Option.map_some, Option.ite_none_right_eq_some,
            Option.some.injEq, Prod.mk.injEq] at read
          obtain ⟨hunicode, rfl, rfl⟩ := read
          refine ⟨t', ?_, h'⟩
          simp only [readUnicodeClass, Scan.move_rest, Scan.move_onto, ht', hset, Option.map_some,
            h'.flags_eq, hunicode, if_true]
    · by_cases hslash : c = '\\'
      · subst hslash
        simp [readUnicodeClass, hs] at read
      · cases hset : CharSet.named? [c] with
        | none => simp [readUnicodeClass, hs, hset] at read
        | some k =>
          simp only [readUnicodeClass, hs, hset, Option.map_some, Option.ite_none_right_eq_some,
            Option.some.injEq, Prod.mk.injEq] at read
          obtain ⟨hunicode, rfl, rfl⟩ := read
          refine ⟨s.onto (u ++ ['$']), ?_, followed_onto s u⟩
          rw [Scan.onto_flags] at hunicode
          simp only [readUnicodeClass, Scan.move_rest, Scan.move_onto, hset, Option.map_some,
            Scan.onto_flags, hunicode, if_true]


theorem length_onto_le (s : Scan) (u : Text) : (s.onto u).rest.length ≤ u.length := by
  have hskip : ∀ inComment, (skipBlanks inComment u).length ≤ u.length := by
    induction u with
    | nil => exact fun _ => Nat.le_refl 0
    | cons c u ih =>
      intro inComment
      rw [skipBlanks]
      split
      · exact Nat.le_succ_of_le (ih _)
      · split
        · exact Nat.le_succ_of_le (ih _)
        · split
          · exact Nat.le_succ_of_le (ih _)
          · exact Nat.le_refl _
  rw [Scan.onto, Scan.move_rest]
  split
  · exact hskip false
  · exact Nat.le_refl _

theorem Followed.length_le (h : Followed s t) : s.rest.length ≤ t.rest.length := by
  cases h <;> simp

def Scan.gather (p : Char → Bool) : Nat → Text → Scan → Text × Scan
  | 0, done, s => (done, s)
  | fuel + 1, done, s =>
    match s.rest with
    | c :: t => if p c then gather p fuel (c :: done) (s.onto t) else (done, s)
    | [] => (done, s)

theorem Scan.gather_of_head {p : Char → Bool} (fuel : Nat) (done : Text)
    (h : ∀ c ∈ s.rest.head?, p c = false) : s.gather p fuel done = (done, s) := by
  cases fuel with
  | zero => rfl
  | succ fuel =>
    cases hs : s.rest with
    | nil => simp [gather, hs]
    | cons c u => simp [gather, hs, h c (by simp [hs])]

theorem gather_local {p : Char → Bool} (hp : p '$' = false) {fuel fuel' : Nat} (hle : fuel ≤ fuel')
    (enough : s.rest.length ≤ fuel) (h : Followed s t) (done : Text) :
    (t.gather p fuel' done).1 = (s.gather p fuel done).1 ∧
      Followed (s.gather p fuel done).2 (t.gather p fuel' done).2 := by
  induction fuel generalizing fuel' s t done with
  -- Where the rest ends here, it goes on there with the sign, which has not the property.
  | zero =>
    have hs : s.rest = [] := List.length_eq_zero_iff.mp (Nat.le_zero.mp enough)
    have ht : ∀ c ∈ t.rest.head?, p c = false := by
      cases h with
      | shown => simp [hs, hp]
      | hidden => simp [hs]
    rw [Scan.gather_of_head fuel' done ht]
    exact ⟨rfl, h⟩
  | succ fuel ih =>
    obtain ⟨fuel', rfl⟩ := Nat.exists_eq_add_one_of_ne_zero (n := fuel') (by omega)
    cases hs : s.rest with
    | nil =>
      have ht : ∀ c ∈ t.rest.head?, p c = false := by
        cases h with
        | shown => simp [hs, hp]
        | hidden => simp [hs]
      rw [Scan.gather_of_head _ done ht, Scan.gather_of_head _ done (by simp [hs])]
      exact ⟨rfl, h⟩
    | cons c u =>
      obtain rfl := h.eq_move hs
      cases hc : p c with
      | true =>
        have hlength : (s.onto u).rest.length ≤ fuel := by
          have := length_onto_le s u
          rw [hs, List.length_cons] at enough
          omega
        have hrun := ih (Nat.le_of_succ_le_succ hle) hlength (followed_onto s u) (c :: done)
        simpa only [Scan.gather, hs, Scan.move_rest, Scan.move_onto, hc, if_true] using hrun
      | false =>
        rw [Scan.gather_of_head _ done (by simp [hc]),
          Scan.gather_of_head _ done (by simp [hs, hc])]
        exact ⟨rfl, h⟩

theorem readBoundaryName_eq_gather (fuel : Nat) (done : Text) (s : Scan) :
    readBoundaryName fuel done s =
      ((s.gather isBoundaryLetter fuel done).1.reverse,
        (s.gather isBoundaryLetter fuel done).2) := by
  induction fuel generalizing done s with
  | zero => rfl
  | succ fuel ih =>
    cases hs : s.rest with
    | nil => simp [readBoundaryName, Scan.gather, hs]
    | cons c u => cases hc : isBoundaryLetter c <;> simp [readBoundaryName, Scan.gather, hs, hc, ih]

theorem readBoundaryName_local (h : Followed s t) :
    (readBoundaryName t.rest.length [] t).1 = (readBoundaryName s.rest.length [] s).1 ∧
      Followed (readBoundaryName s.rest.length [] s).2 (readBoundaryName t.rest.length [] t).2 := by
  have local_ := gather_local (p := isBoundaryLetter) (by decide) h.length_le (Nat.le_refl _) h []
  rw [readBoundaryName_eq_gather, readBoundaryName_eq_gather]
  exact ⟨congrArg List.reverse local_.1, local_.2⟩

theorem readBoundary_local : Local readBoundary := by
  intro s t h a s' read
  by_cases hbrace : ∃ u, s.rest = '\x7b' :: u
  · obtain ⟨u, hs⟩ := hbrace
    have hst := h
    obtain rfl := h.eq_move hs
    simp only [readBoundary, hs] at read
    simp only [readBoundary, Scan.move_rest]
    rw [Scan.move_onto, Scan.move_flags]
    have inner := followed_onto s u
    obtain ⟨hname, hrun⟩ := readBoundaryName_local inner
    generalize readBoundaryName (s.onto u).rest.length [] (s.onto u) = run at read hname hrun
    generalize readBoundaryName (s.onto (u ++ ['$'])).rest.length [] (s.onto (u ++ ['$'])) = run'
      at hname hrun ⊢
    obtain ⟨name, s₁⟩ := run
    obtain ⟨name', t₁⟩ := run'
    obtain rfl : name' = name := hname
    cases hinner : (s.onto u).rest with
    | nil => simp [hinner] at read
    | cons c v =>
      have hinner' : (s.onto (u ++ ['$'])).rest = c :: (v ++ ['$']) := by
        rw [inner.eq_move hinner, Scan.move_rest]
      simp only [hinner] at read
      simp only [hinner']
      cases hc : isBoundaryLetter c with
      | false =>
        simp only [hc, Bool.false_eq_true, if_false] at read ⊢
        obtain ⟨rfl, rfl⟩ := Prod.mk.inj (Option.some.inj read)
        exact ⟨_, rfl, hst⟩
      | true =>
        simp only [hc, if_true] at read ⊢
        split at read
        · rename_i w hs₁
          obtain rfl := hrun.eq_move hs₁
          simp only [Scan.move_rest]
          split_ifs at read ⊢
          all_goals
            obtain ⟨rfl, rfl⟩ := Prod.mk.inj (Option.some.inj read)
            exact ⟨_, rfl, followed_move s₁ w⟩
        · cases read
  · have hbrace' : ¬ ∃ u, t.rest = '\x7b' :: u := fun ht =>
      hbrace ((h.starts_iff (by decide)).mp ht)
    rw [readBoundary] at read ⊢
    split at read
    · rename_i u hs
      exact absurd ⟨u, hs⟩ hbrace
    · obtain ⟨rfl, rfl⟩ := Prod.mk.inj (Option.some.inj read)
      refine ⟨t, ?_, h⟩
      split
      · rename_i u ht
        exact absurd ⟨u, ht⟩ hbrace'
      · rw [h.flags_eq]

theorem readEscape_local : Local readEscape := by
  intro s t h a s' read
  cases hs : s.rest with
  | nil => simp [readEscape, hs] at read
  | cons c u =>
    obtain rfl := h.eq_move hs
    have moved := followed_move s u
    have past := followed_onto s u
    simp only [readEscape, hs] at read
    simp only [readEscape, Scan.move_rest, Scan.move_flags, Scan.move_onto, Scan.move_move]
    by_cases hdigit : c.isDigit = true
    · rw [if_pos hdigit] at read
      cases read
    rw [if_neg hdigit] at read ⊢
    by_cases hx : c = 'x'
    · rw [if_pos hx] at read ⊢
      exact readHexEscape_local 2 past read
    rw [if_neg hx] at read ⊢
    by_cases hu : c = 'u'
    · rw [if_pos hu] at read ⊢
      exact readHexEscape_local 4 past read
    rw [if_neg hu] at read ⊢
    by_cases hU : c = 'U'
    · rw [if_pos hU] at read ⊢
      exact readHexEscape_local 8 past read
    rw [if_neg hU] at read ⊢
    by_cases hp : c = 'p' ∨ c = 'P'
    · rw [if_pos hp] at read ⊢
      exact readUnicodeClass_local _ past read
    rw [if_neg hp] at read ⊢
    cases hclass : letterClass? s.flags.unicode c with
    | some k =>
      rw [hclass] at read
      obtain ⟨rfl, rfl⟩ := Prod.mk.inj (Option.some.inj read)
      exact ⟨_, rfl, moved⟩
    | none =>
      simp only [hclass] at read ⊢
      by_cases hescapable : isEscapable c = true
      · rw [if_pos hescapable] at read ⊢
        obtain ⟨rfl, rfl⟩ := Prod.mk.inj (Option.some.inj read)
        exact ⟨_, rfl, moved⟩
      rw [if_neg hescapable] at read ⊢
      cases hcontrol : controlEscape? c with
      | some d =>
        rw [hcontrol] at read
        obtain ⟨rfl, rfl⟩ := Prod.mk.inj (Option.some.inj read)
        exact ⟨_, rfl, moved⟩
      | none =>
        simp only [hcontrol] at read ⊢
        split at read
        case h_3 => exact readBoundary_local moved read
        case h_7 => cases read
        all_goals
          obtain ⟨rfl, rfl⟩ := Prod.mk.inj (Option.some.inj read)
          exact ⟨_, rfl, moved⟩

end Runbook.Pattern
