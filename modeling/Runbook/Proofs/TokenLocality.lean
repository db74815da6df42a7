import Runbook.Proofs.BracketLocality

/-! # Tokens with a dollar sign after the pattern

Every token of a pattern is read the same where a dollar sign follows.
-/
namespace Runbook.Pattern

variable {s t s' : Scan} {c : Char} {u : Text}

/-! ## Repetition -/

theorem digits_eq_gather (fuel : Nat) (done : Text) (s : Scan) :
    readDecimal.digits fuel done s =
      ((s.gather (·.isDigit) fuel done).1.reverse, (s.gather (·.isDigit) fuel done).2) := by
  induction fuel generalizing done s with
  | zero => rfl
  | succ fuel ih =>
    cases hs : s.rest with
    | nil => simp [readDecimal.digits, Scan.gather, hs]
    | cons c u => cases hc : c.isDigit <;> simp [readDecimal.digits, Scan.gather, hs, hc, ih]

theorem Followed.dropBlanks (h : Followed s t) :
    Followed (s.move (s.rest.dropWhile Text.isBlank)) (t.move (t.rest.dropWhile Text.isBlank)) := by
  cases h with
  | shown =>
    rw [Scan.move_rest, Scan.move_move, dropWhile_blank_dollar]
    exact followed_move s _
  | hidden ended verbose =>
    rw [ended]
    exact .hidden rfl verbose

theorem readDecimal_local (h : Followed s t) :
    (readDecimal t).1 = (readDecimal s).1 ∧ Followed (readDecimal s).2 (readDecimal t).2 := by
  have trimmed := h.dropBlanks
  have same := gather_local (p := (·.isDigit)) (by decide) trimmed.length_le (Nat.le_refl _)
    trimmed []
  rw [readDecimal, readDecimal]
  simp only [digits_eq_gather, same.1]
  exact ⟨trivial, same.2.dropBlanks.onto_rest⟩

def readUpper (least : Option Nat) (s : Scan) : Option ((Nat × Option Nat) × Scan) :=
  match s.rest with
  | '\x7d' :: t => least.map fun n => ((n, none), s.onto t)
  | [] => none
  | _ =>
    let (most, s) := readDecimal s
    match least, most, s.rest with
    | some n, some m, '\x7d' :: t => if n ≤ m then some ((n, some m), s.onto t) else none
    | _, _, _ => none

theorem readUpper_of_ne (least : Option Nat) (hs : s.rest = c :: u) (hc : c ≠ '\x7d') :
    readUpper least s =
      match least, (readDecimal s).1, (readDecimal s).2.rest with
      | some n, some m, '\x7d' :: w =>
        if n ≤ m then some ((n, some m), (readDecimal s).2.onto w) else none
      | _, _, _ => none := by
  simp [readUpper, hs, hc]

theorem readUpper_local (least : Option Nat) : Local (readUpper least) := by
  intro s t h a s' read
  cases hs : s.rest with
  | nil => simp [readUpper, hs] at read
  | cons c u =>
    by_cases hc : c = '\x7d'
    · subst hc
      obtain rfl := h.eq_move hs
      simp only [readUpper, hs] at read
      obtain ⟨n, hn, he⟩ := Option.map_eq_some_iff.mp read
      obtain ⟨rfl, rfl⟩ := Prod.mk.inj he
      exact ⟨_, by simp [readUpper, hn], followed_onto s u⟩
    · have ht : t.rest = c :: (u ++ ['$']) := by rw [h.eq_move hs, Scan.move_rest]
      obtain ⟨hmost, h₁⟩ := readDecimal_local h
      rw [readUpper_of_ne least hs hc] at read
      rw [readUpper_of_ne least ht hc, hmost]
      generalize (readDecimal s).1 = most at read ⊢
      generalize (readDecimal t).2 = t₁ at h₁ ⊢
      generalize (readDecimal s).2 = s₁ at read h₁
      split at read
      · rename_i n m v hs₁
        obtain rfl := h₁.eq_move hs₁
        obtain ⟨hle, he⟩ := Option.ite_none_right_eq_some.mp read
        obtain ⟨rfl, rfl⟩ := Prod.mk.inj (Option.some.inj he)
        exact ⟨_, by simp [hle], followed_onto s₁ v⟩
      · cases read

theorem readCounts_eq (s : Scan) : readCounts s =
    match (readDecimal s).2.rest with
    | ',' :: u => readUpper (readDecimal s).1 ((readDecimal s).2.onto u)
    | '\x7d' :: u => (readDecimal s).1.map fun n => ((n, some n), (readDecimal s).2.onto u)
    | _ => none :=
  rfl

theorem readCounts_local : Local readCounts := by
  intro s t h a s' read
  obtain ⟨hleast, h₁⟩ := readDecimal_local h
  rw [readCounts_eq] at read ⊢
  rw [hleast]
  generalize (readDecimal t).2 = t₁ at h₁ ⊢
  generalize (readDecimal s).2 = s₁ at read h₁
  split at read
  · rename_i u hs₁
    obtain rfl := h₁.eq_move hs₁
    exact readUpper_local _ (followed_onto s₁ u) read
  · rename_i u hs₁
    obtain rfl := h₁.eq_move hs₁
    obtain ⟨n, hn, he⟩ := Option.map_eq_some_iff.mp read
    obtain ⟨rfl, rfl⟩ := Prod.mk.inj he
    exact ⟨_, by simp [hn], followed_onto s₁ u⟩
  · cases read

theorem skipLazy_local (h : Followed s t) : Followed (skipLazy s) (skipLazy t) := by
  by_cases hlazy : ∃ u, s.rest = '?' :: u
  · obtain ⟨u, hs⟩ := hlazy
    obtain rfl := h.eq_move hs
    simp only [skipLazy, hs, Scan.move_rest, Scan.move_move]
    exact followed_move s u
  · have hlazy' : ¬ ∃ u, t.rest = '?' :: u := fun ht =>
      hlazy ((h.starts_iff (by decide)).mp ht)
    rw [skipLazy, skipLazy]
    split
    · rename_i u hs
      exact absurd ⟨u, hs⟩ hlazy
    · split
      · rename_i u ht
        exact absurd ⟨u, ht⟩ hlazy'
      · exact h

/-! ## Groups and flags -/

theorem readGroupName_local (h : Followed s t) (read : readGroupName s = some s') :
    ∃ t', readGroupName t = some t' ∧ Followed s' t' := by
  rw [readGroupName] at read
  split at read
  · rename_i first more after hcut
    obtain ⟨hname, hread⟩ := Option.ite_none_right_eq_some.mp read
    obtain rfl := Option.some.inj hread
    cases h with
    | hidden ended => rw [ended] at hcut; cases hcut
    | shown =>
      refine ⟨_, ?_, .shown _⟩
      rw [readGroupName, Scan.move_rest, splitOnce?_dollar (by decide), hcut]
      exact if_pos hname
  · cases read

theorem readFlags_dollar {f g : Flags} {seen u v : Text} {on dangling : Bool}
    (read : readFlags f seen on dangling u = some (g, v)) :
    readFlags f seen on dangling (u ++ ['$']) = some (g, v ++ ['$']) := by
  induction u generalizing f seen on dangling with
  | nil => cases read
  | cons c u ih =>
    rw [readFlags] at read
    rw [List.cons_append, readFlags]
    split_ifs at read ⊢
    · obtain ⟨rfl, rfl⟩ := Prod.mk.inj (Option.some.inj read)
      rfl
    · exact ih read
    · cases hset : f.set? c on with
      | none => simp [hset] at read
      | some f' =>
        rw [hset] at read
        exact ih read

theorem prefix_of_dollar {p v : Text} (hp : '$' ∉ p) (h : u ++ ['$'] = p ++ v) :
    ∃ w, u = p ++ w := by
  rcases List.append_eq_append_iff.mp h with ⟨w, rfl, hw⟩ | ⟨w, hw, -⟩
  · cases w with
    | nil => exact ⟨[], by simp⟩
    | cons d w =>
      obtain ⟨rfl, -⟩ := List.cons.inj hw
      exact absurd (List.mem_append_right u List.mem_cons_self) hp
  · exact ⟨w, hw⟩

theorem startsWith_dollar {p : Text} (hp : '$' ∉ p) (u : Text) :
    Text.startsWith p (u ++ ['$']) = Text.startsWith p u := by
  rw [Bool.eq_iff_iff]
  simp only [Text.startsWith, Option.isSome_iff_exists, Text.after?_eq_some_iff]
  constructor
  · rintro ⟨v, h⟩
    exact prefix_of_dollar hp h
  · rintro ⟨w, rfl⟩
    exact ⟨w ++ ['$'], List.append_assoc p w _⟩

def readFlagged (s : Scan) (t : Text) : Option Opening :=
  match readFlags s.flags [] true false t with
  | some (f, ':' :: after) => some (.group { s with rest := after, flags := f })
  | some (f, ')' :: after) =>
    match t with
    | ')' :: _ => none
    | _ => some (.flags { s with rest := after, flags := f })
  | _ => none

/-- The same is opened, and the places after it follow each other. -/
inductive Opening.Same : Opening → Opening → Prop
  | flags {s t : Scan} (h : Followed s t) : Same (.flags s) (.flags t)
  | group {s t : Scan} (h : Followed s t) : Same (.group s) (.group t)

theorem readFlagged_local {o : Opening} (read : readFlagged s u = some o) :
    ∃ o', readFlagged s (u ++ ['$']) = some o' ∧ o.Same o' := by
  rw [readFlagged] at read
  split at read
  · rename_i f after hflags
    obtain rfl := Option.some.inj read
    refine ⟨_, ?_, .group (.shown _)⟩
    rw [readFlagged, readFlags_dollar hflags]
    rfl
  · rename_i f after hflags
    cases u with
    | nil => cases hflags
    | cons c u =>
      split at read
      · cases read
      · rename_i hclose
        obtain rfl := Option.some.inj read
        refine ⟨_, ?_, .flags (.shown _)⟩
        rw [readFlagged, readFlags_dollar hflags]
        have hc : c ≠ ')' := fun hc => hclose u (congrArg (· :: u) hc)
        simp [hc]
        rfl
  · cases read

theorem readOpening_eq (s : Scan) : readOpening s =
    if (["?=", "?!", "?<=", "?<!"].any fun p => Text.startsWith p.toList s.rest) then none
    else
      match s.rest with
      | '?' :: 'P' :: '<' :: u => (readGroupName (s.move u)).map .group
      | '?' :: '<' :: u => (readGroupName (s.move u)).map .group
      | '?' :: u => readFlagged s u
      | _ => some (.group s) :=
  rfl

theorem readOpening_local (h : Followed s t) {o : Opening} (read : readOpening s = some o) :
    ∃ o', readOpening t = some o' ∧ o.Same o' := by
  rw [readOpening_eq] at read ⊢
  obtain ⟨hlooks, hplace⟩ := Option.ite_none_left_eq_some.mp read
  cases h with
  | hidden ended verbose =>
    simp only [ended] at hplace
    obtain rfl := Option.some.inj hplace
    exact ⟨_, read, .group (.hidden ended verbose)⟩
  | shown =>
    have hlooks' : ¬ (["?=", "?!", "?<=", "?<!"].any fun p =>
        Text.startsWith p.toList (s.rest ++ ['$'])) = true := by
      simp only [List.any_cons, List.any_nil] at hlooks ⊢
      rwa [startsWith_dollar (by decide), startsWith_dollar (by decide),
        startsWith_dollar (by decide), startsWith_dollar (by decide)]
    rw [Scan.move_rest, if_neg hlooks']
    split at hplace
    · rename_i u hs
      obtain ⟨s', hs', rfl⟩ := Option.map_eq_some_iff.mp hplace
      obtain ⟨t', ht', h'⟩ := readGroupName_local (followed_move s u) hs'
      rw [hs]
      exact ⟨_, Option.map_eq_some_iff.mpr ⟨t', ht', rfl⟩, .group h'⟩
    · rename_i u hs
      obtain ⟨s', hs', rfl⟩ := Option.map_eq_some_iff.mp hplace
      obtain ⟨t', ht', h'⟩ := readGroupName_local (followed_move s u) hs'
      rw [hs]
      exact ⟨_, Option.map_eq_some_iff.mpr ⟨t', ht', rfl⟩, .group h'⟩
    · rename_i u hnamed hnamed' hs
      obtain ⟨o', ho', same⟩ := readFlagged_local hplace
      rw [hs, List.cons_append]
      refine ⟨o', ?_, same⟩
      split
      · rename_i v ht
        obtain ⟨w, rfl⟩ := prefix_of_dollar (p := ['P', '<']) (by decide) (List.cons.inj ht).2
        exact (hnamed w rfl).elim
      · rename_i v ht
        obtain ⟨w, rfl⟩ := prefix_of_dollar (p := ['<']) (by decide) (List.cons.inj ht).2
        exact (hnamed' w rfl).elim
      · rename_i v _ _ ht
        obtain ⟨-, rfl⟩ := List.cons.inj ht
        exact ho'
      · rename_i _ _ hplain
        exact absurd rfl (hplain _)
    · rename_i hplain
      obtain rfl := Option.some.inj hplace
      refine ⟨_, ?_, .group (.shown s)⟩
      have hplain' : ∀ v, s.rest ++ ['$'] ≠ '?' :: v := by
        intro v ht
        obtain ⟨w, hw⟩ := prefix_of_dollar (p := ['?']) (by decide) ht
        exact hplain w hw
      split
      · rename_i v ht
        exact absurd ht (hplain' _)
      · rename_i v ht
        exact absurd ht (hplain' _)
      · rename_i v _ _ ht
        exact absurd ht (hplain' _)
      · rfl

/-! ## Tokens -/

theorem piece_local {x : Option Regex} {height : Nat} {token : Token} (h : Followed s t)
    (read : (x.map fun r => (Token.piece ⟨r, height⟩, s)) = some (token, s')) :
    ∃ t', (x.map fun r => (Token.piece ⟨r, height⟩, t)) = some (token, t') ∧ Followed s' t' ∧
      (token = .closing → t' = s'.move (s'.rest ++ ['$'])) := by
  obtain ⟨r, hr, he⟩ := Option.map_eq_some_iff.mp read
  obtain ⟨rfl, rfl⟩ := Prod.mk.inj he
  exact ⟨t, by rw [hr, Option.map_some], h, nofun⟩

/-- A token is the same where a dollar sign follows, and the sign shows after a closing one. -/
theorem tokenAt_local {token : Token} (read : tokenAt s u c = some (token, s')) :
    ∃ t', tokenAt (s.move (c :: (u ++ ['$']))) (u ++ ['$']) c = some (token, t') ∧
      Followed s' t' ∧ (token = .closing → t' = s'.move (s'.rest ++ ['$'])) := by
  have moved := followed_move s u
  have past := followed_onto s u
  unfold tokenAt at read ⊢
  -- The cases come in the order of `tokenAt`: `(`, `)`, `|`, `[`, the signs of repetition, `.`, the
  -- anchors, a backslash, and a plain character.
  simp only [Scan.move_flags, Scan.move_move, Scan.move_onto] at read ⊢
  split at read
  case h_1 =>
    cases ho : readOpening (s.onto u) with
    | none => simp [ho] at read
    | some o =>
      obtain ⟨o', ho', same⟩ := readOpening_local past ho
      simp only [ho] at read
      simp only [ho']
      cases same with
      | flags h =>
        obtain ⟨rfl, rfl⟩ := Prod.mk.inj (Option.some.inj read)
        exact ⟨_, rfl, h, nofun⟩
      | group h =>
        obtain ⟨rfl, rfl⟩ := Prod.mk.inj (Option.some.inj read)
        exact ⟨_, rfl, h, nofun⟩
  case h_2 =>
    obtain ⟨rfl, rfl⟩ := Prod.mk.inj (Option.some.inj read)
    exact ⟨_, rfl, moved, fun _ => rfl⟩
  case h_3 | h_10 | h_11 =>
    obtain ⟨rfl, rfl⟩ := Prod.mk.inj (Option.some.inj read)
    exact ⟨_, rfl, moved, nofun⟩
  case h_4 =>
    cases hopen : openBracket s u with
    | none => simp [hopen] at read
    | some p =>
      obtain ⟨t₁, ht₁, h₁⟩ := openBracket_local hopen
      have hopen' : openBracket (s.move ('[' :: (u ++ ['$']))) (u ++ ['$']) = some (p.1, t₁) := ht₁
      rw [hopen']
      simp only [hopen] at read ⊢
      cases hset : readBracket (p.2.rest.length + 1) [] p.1 p.2 with
      | none => simp [hset] at read
      | some q =>
        obtain ⟨t₂, ht₂, h₂⟩ :=
          readBracket_local [] p.1 (Nat.succ_le_succ h₁.length_le) h₁ hset
        simp only [hset] at read
        simp only [ht₂]
        exact piece_local h₂ read
  case h_5 | h_6 | h_7 =>
    obtain ⟨rfl, rfl⟩ := Prod.mk.inj (Option.some.inj read)
    exact ⟨_, rfl, skipLazy_local moved, nofun⟩
  case h_8 =>
    obtain ⟨q, hq, he⟩ := Option.map_eq_some_iff.mp read
    obtain ⟨rfl, rfl⟩ := Prod.mk.inj he
    obtain ⟨t₁, ht₁, h₁⟩ := readCounts_local past hq
    exact ⟨_, by rw [ht₁]; rfl, skipLazy_local h₁, nofun⟩
  case h_9 => exact piece_local moved read
  case h_12 =>
    cases hatom : readEscape (s.move u) with
    | none => simp [hatom] at read
    | some q =>
      obtain ⟨t₁, ht₁, h₁⟩ := readEscape_local moved hatom
      simp only [hatom] at read
      simp only [ht₁]
      exact piece_local h₁ read
  case h_13 =>
    obtain ⟨t', ht', h'⟩ := piece_local moved read
    exact ⟨t', by simp [*], h'⟩

theorem readToken_local {token : Token} (h : Followed s t)
    (read : readToken s = some (token, s')) :
    ∃ t', readToken t = some (token, t') ∧ Followed s' t' ∧
      (token = .closing → t' = s'.move (s'.rest ++ ['$'])) := by
  have place := h.onto_rest
  cases hs : (s.onto s.rest).rest with
  | nil => simp [readToken, hs] at read
  | cons c u =>
    have ht : (t.onto t.rest).rest = c :: (u ++ ['$']) := by
      rw [place.eq_move hs, Scan.move_rest]
    simp only [readToken, hs] at read
    simp only [readToken, ht]
    rw [place.eq_move hs]
    exact tokenAt_local read

end Runbook.Pattern
