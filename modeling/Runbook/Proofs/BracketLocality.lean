import Runbook.Proofs.PatternLocality

/-! # Brackets with a dollar sign after the pattern

A set in brackets that is closed is read the same where a dollar sign follows. In a set that is not
closed the sign could be a character, but such a pattern is refused.
-/
namespace Runbook.Pattern

variable {s t s' : Scan} {c : Char} {u : Text}

theorem readHyphens_eq_gather (fuel : Nat) (done : Text) (s : Scan) :
    let run := s.gather (· == '-') fuel done
    readHyphens fuel (done.map fun _ => ⟨.single '-'.toNat, 0⟩) s =
      (run.1.map fun _ => ⟨.single '-'.toNat, 0⟩, run.2) := by
  induction fuel generalizing done s with
  | zero => rfl
  | succ fuel ih =>
    cases hs : s.rest with
    | nil => simp [readHyphens, Scan.gather, hs]
    | cons c u =>
      by_cases hc : c = '-'
      · subst hc
        simpa [readHyphens, Scan.gather, hs] using ih ('-' :: done) (s.onto u)
      · simp [readHyphens, Scan.gather, hs, hc]

theorem readHyphens_local (h : Followed s t) :
    (readHyphens t.rest.length [] t).1 = (readHyphens s.rest.length [] s).1 ∧
      Followed (readHyphens s.rest.length [] s).2 (readHyphens t.rest.length [] t).2 := by
  have same := gather_local (p := (· == '-')) (by decide) h.length_le (Nat.le_refl _) h []
  have hs := readHyphens_eq_gather s.rest.length [] s
  have ht := readHyphens_eq_gather t.rest.length [] t
  simp only [List.map_nil] at hs ht
  rw [hs, ht, same.1]
  exact ⟨rfl, same.2⟩

/-- What counts as characters at the beginning of a bracket. -/
def openItems (negated : Bool) (s : Scan) : Option (Bracket × Scan) :=
  let (items, s) := readHyphens s.rest.length [] s
  match s.rest with
  | [] => none
  | ']' :: t =>
    if items.isEmpty then
      let s := s.onto t
      if s.rest.isEmpty then none else some (⟨negated, none, [⟨.single ']'.toNat, 0⟩]⟩, s)
    else some (⟨negated, none, items⟩, s)
  | _ => some (⟨negated, none, items⟩, s)

theorem openItems_local (negated : Bool) : Local (openItems negated) := by
  intro s t h b s' read
  obtain ⟨hitems, hrun⟩ := readHyphens_local h
  rw [openItems] at read ⊢
  generalize readHyphens s.rest.length [] s = run at read hitems hrun
  generalize readHyphens t.rest.length [] t = run' at hitems hrun ⊢
  obtain ⟨items, s₁⟩ := run
  obtain ⟨items', t₁⟩ := run'
  obtain rfl : items' = items := hitems
  simp only at read hrun ⊢
  cases hs₁ : s₁.rest with
  | nil => simp [hs₁] at read
  | cons c u =>
    obtain rfl := hrun.eq_move hs₁
    by_cases hc : c = ']'
    · subst hc
      simp only [hs₁] at read
      simp only [Scan.move_rest, Scan.move_onto]
      by_cases hempty : items'.isEmpty = true
      · rw [if_pos hempty] at read ⊢
        obtain ⟨hrest, hb⟩ := Option.ite_none_left_eq_some.mp read
        obtain ⟨rfl, rfl⟩ := Prod.mk.inj (Option.some.inj hb)
        have past := followed_onto s₁ u
        have hrest' : ¬ (s₁.onto (u ++ ['$'])).rest.isEmpty = true := by
          have := past.length_le
          simp only [List.isEmpty_iff, ← List.length_eq_zero_iff] at hrest ⊢
          omega
        exact ⟨_, if_neg hrest', past⟩
      · rw [if_neg hempty] at read ⊢
        obtain ⟨rfl, rfl⟩ := Prod.mk.inj (Option.some.inj read)
        exact ⟨_, rfl, hrun⟩
    · have hplain : some (⟨negated, none, items'⟩, s₁) = some (b, s') := by
        simpa [hs₁, hc] using read
      obtain ⟨rfl, rfl⟩ := Prod.mk.inj (Option.some.inj hplain)
      exact ⟨_, by simp [hc], hrun⟩

def negation (s : Scan) : Bool × Scan :=
  match s.rest with
  | '^' :: t => (true, s.onto t)
  | _ => (false, s)

theorem negation_local (h : Followed s t) :
    (negation t).1 = (negation s).1 ∧ Followed (negation s).2 (negation t).2 := by
  by_cases hcaret : ∃ u, s.rest = '^' :: u
  · obtain ⟨u, hs⟩ := hcaret
    obtain rfl := h.eq_move hs
    simp only [negation, hs, Scan.move_rest, Scan.move_onto]
    exact ⟨trivial, followed_onto s u⟩
  · have hcaret' : ¬ ∃ u, t.rest = '^' :: u := fun ht =>
      hcaret ((h.starts_iff (by decide)).mp ht)
    rw [negation, negation]
    split
    · rename_i u ht
      exact absurd ⟨u, ht⟩ hcaret'
    · split
      · rename_i u hs
        exact absurd ⟨u, hs⟩ hcaret
      · exact ⟨rfl, h⟩

theorem openBracket_local {b : Bracket} (read : openBracket s u = some (b, s')) :
    ∃ t', openBracket s (u ++ ['$']) = some (b, t') ∧ Followed s' t' := by
  have hopen : ∀ v, openBracket s v =
      openItems (negation (s.onto v)).1 (negation (s.onto v)).2 := fun _ => rfl
  obtain ⟨hnegated, past⟩ := negation_local (followed_onto s u)
  rw [hopen] at read ⊢
  rw [hnegated]
  exact openItems_local _ past read

theorem peek?_dollar (s : Scan) (u : Text) (hblank : Text.isBlank c = false)
    (hhash : c ≠ '#') (hdollar : c ≠ '$') :
    s.peek? (u ++ ['$']) = some c ↔ s.peek? u = some c := by
  have hhead : (u ++ ['$']).head? = some c ↔ u.head? = some c := by
    cases u with
    | nil => simp [Ne.symm hdollar]
    | cons d u => simp
  rw [Scan.peek?, Scan.peek?, dropWhile_blank_dollar]
  by_cases hverbose : s.flags.verbose = true
  · rw [if_pos hverbose, if_pos hverbose]
    have hhead' : u.dropWhile Text.isBlank = [] ∨ (∃ v, u.dropWhile Text.isBlank = '#' :: v) →
        u.head? ≠ some c := by
      cases u with
      | nil => simp
      | cons d u =>
        rintro hdrop hd
        obtain rfl := Option.some.inj hd
        rw [List.dropWhile_cons, hblank] at hdrop
        simp [hhash] at hdrop
    cases hdrop : u.dropWhile Text.isBlank with
    | nil => simp [Ne.symm hdollar, hhead' (.inl hdrop)]
    | cons d v =>
      by_cases hd : d = '#'
      · subst hd
        simp only [List.cons_append, dropWhile_blank_dollar]
        cases hv : v.dropWhile Text.isBlank with
        | nil => simp [Ne.symm hdollar, hhead' (.inr ⟨v, hdrop⟩)]
        | cons e w => simp
      · simp
  · rw [if_neg hverbose, if_neg hverbose]
    exact hhead

theorem splitOnce?_dollar {d : Char} (hd : d ≠ '$') (u : Text) :
    Text.splitOnce? [d] (u ++ ['$']) =
      (Text.splitOnce? [d] u).map fun p => (p.1, p.2 ++ ['$']) := by
  induction u with
  | nil => simp [Text.splitOnce?, Text.after?, hd]
  | cons c u ih =>
    rw [List.cons_append, Text.splitOnce?, Text.splitOnce?, ih]
    by_cases hc : d = c
    · simp [Text.after?, hc]
    · simp [Text.after?, hc, Option.map_map, Function.comp_def]

def posixNegation : Text → Bool × Text
  | '^' :: t => (true, t)
  | t => (false, t)

theorem posixNegation_dollar (u : Text) :
    posixNegation (u ++ ['$']) = ((posixNegation u).1, (posixNegation u).2 ++ ['$']) := by
  cases u with
  | nil => rfl
  | cons c u =>
    by_cases hc : c = '^'
    · subst hc
      rfl
    · simp [posixNegation, hc]

def posixNamed (s : Scan) (negated : Bool) (t : Text) : Option (CharSet × Scan) :=
  match Text.splitOnce? [':'] t with
  | some (name, ']' :: after) =>
    (CharSet.posix? name).map fun c =>
      (complementIf negated (s.flags.close c), s.move after)
  | _ => none

theorem posixNamed_dollar (s : Scan) (negated : Bool) (u : Text) :
    posixNamed s negated (u ++ ['$']) =
      (posixNamed s negated u).map fun p => (p.1, p.2.move (p.2.rest ++ ['$'])) := by
  rw [posixNamed, posixNamed, splitOnce?_dollar (by decide)]
  cases Text.splitOnce? [':'] u with
  | none => rfl
  | some p =>
    obtain ⟨name, after⟩ := p
    cases after with
    | nil => rfl
    | cons c after =>
      by_cases hc : c = ']'
      · subst hc
        simp [Option.map_map, Function.comp_def]
      · simp [hc]

theorem readPosix?_eq (s : Scan) : readPosix? s =
    match s.rest with
    | '[' :: ':' :: t => posixNamed s (posixNegation t).1 (posixNegation t).2
    | _ => none :=
  rfl

theorem readPosix?_dollar (s : Scan) :
    readPosix? (s.move (s.rest ++ ['$'])) =
      (readPosix? s).map fun p => (p.1, p.2.move (p.2.rest ++ ['$'])) := by
  rw [readPosix?_eq, readPosix?_eq]
  obtain ⟨rest, flags, names⟩ := s
  match rest with
  | [] => rfl
  | [c] =>
    by_cases hc : c = '['
    · subst hc
      rfl
    · simp
  | c :: d :: u =>
    by_cases hcd : c = '[' ∧ d = ':'
    · obtain ⟨rfl, rfl⟩ := hcd
      simp only [Scan.move_rest, List.cons_append, posixNegation_dollar]
      exact posixNamed_dollar _ _ _
    · by_cases hc : c = '['
      · subst hc
        have hd : d ≠ ':' := fun hd => hcd ⟨rfl, hd⟩
        simp [hd]
      · simp [hc]

theorem readSetAtom_local : Local readSetAtom := by
  intro s t h a s' read
  cases hs : s.rest with
  | nil => simp [readSetAtom, hs] at read
  | cons c u =>
    obtain rfl := h.eq_move hs
    by_cases hc : c = '\\'
    · subst hc
      simp only [readSetAtom, hs] at read
      simp only [readSetAtom, Scan.move_rest, Scan.move_move]
      exact readEscape_local (followed_move s u) read
    · simp only [readSetAtom, hs] at read
      simp only [readSetAtom, Scan.move_rest, Scan.move_move]
      obtain ⟨rfl, rfl⟩ := Prod.mk.inj (Option.some.inj read)
      exact ⟨_, rfl, followed_move s u⟩

theorem Followed.onto_rest (h : Followed s t) : Followed (s.onto s.rest) (t.onto t.rest) := by
  cases h with
  | shown => exact followed_onto s s.rest
  | hidden ended verbose =>
    rw [ended, Scan.onto, if_pos verbose]
    exact .hidden rfl verbose

theorem readSetItem_local : Local readSetItem := by
  intro s t h a s' read
  rw [readSetItem] at read ⊢
  cases hfirst : readSetAtom s with
  | none => simp [hfirst] at read
  | some p =>
    obtain ⟨first, s₁⟩ := p
    obtain ⟨t₁, ht₁, h₁⟩ := readSetAtom_local h hfirst
    rw [hfirst] at read
    rw [ht₁]
    have h₂ := h₁.onto_rest
    simp only at read ⊢
    generalize s₁.onto s₁.rest = s₂ at read h₂
    generalize t₁.onto t₁.rest = t₂ at h₂ ⊢
    cases hs₂ : s₂.rest with
    | nil => simp [hs₂] at read
    | cons c u =>
      obtain rfl := h₂.eq_move hs₂
      simp only [hs₂] at read
      simp only [Scan.move_rest, Scan.peek?_move, Scan.move_flags, Scan.move_onto,
        peek?_dollar s₂ u (c := ']') (by decide) (by decide) (by decide),
        peek?_dollar s₂ u (c := '-') (by decide) (by decide) (by decide)]
      by_cases alone : c ≠ '-' ∨ s₂.peek? u = some ']' ∨ s₂.peek? u = some '-'
      · rw [if_pos alone] at read ⊢
        cases first with
        | literal d asByte =>
          obtain ⟨n, hn, he⟩ := Option.map_eq_some_iff.mp read
          obtain ⟨rfl, rfl⟩ := Prod.mk.inj he
          exact ⟨_, by simp [hn], h₂⟩
        | «class» k =>
          obtain ⟨admitted, he⟩ := Option.ite_none_right_eq_some.mp read
          obtain ⟨rfl, rfl⟩ := Prod.mk.inj (Option.some.inj he)
          exact ⟨_, if_pos admitted, h₂⟩
        | look l => cases read
      · rw [if_neg alone] at read ⊢
        cases hsecond : readSetAtom (s₂.onto u) with
        | none => simp [hsecond] at read
        | some p =>
          obtain ⟨second, s₃⟩ := p
          obtain ⟨t₃, ht₃, h₃⟩ := readSetAtom_local (followed_onto s₂ u) hsecond
          rw [hsecond] at read
          rw [ht₃]
          cases second with
          | «class» k => cases read
          | look l => cases read
          | literal high asByte =>
            cases first with
            | «class» k => cases read
            | look l => cases read
            | literal low asByte' =>
              simp only [h₃.flags_eq] at read ⊢
              split at read
              · obtain ⟨hle, he⟩ := Option.ite_none_right_eq_some.mp read
                obtain ⟨rfl, rfl⟩ := Prod.mk.inj (Option.some.inj he)
                exact ⟨t₃, by simp [*], h₃⟩
              · cases read

def setOp? : Text → Option (SetOp × Text)
  | '&' :: '&' :: t => some (.inter, t)
  | '-' :: '-' :: t => some (.diff, t)
  | '~' :: '~' :: t => some (.symmDiff, t)
  | _ => none

theorem setOp?_dollar (u : Text) :
    setOp? (u ++ ['$']) = (setOp? u).map fun p => (p.1, p.2 ++ ['$']) := by
  match u with
  | [] => rfl
  | [c] => simp [setOp?]
  | c :: d :: u =>
    simp only [List.cons_append, setOp?]
    split <;> simp_all

theorem setOp?_eq_none (hinter : ∀ t, u = '&' :: '&' :: t → False)
    (hdiff : ∀ t, u = '-' :: '-' :: t → False) (hsymm : ∀ t, u = '~' :: '~' :: t → False) :
    setOp? u = none := by
  rw [setOp?]
  · exact hinter
  · exact hdiff
  · exact hsymm

/-- A round of a bracket, by what stands first. -/
theorem readBracket_place (fuel : Nat) (outer : List Bracket) (b : Bracket) {place : Scan}
    (hs : s.onto s.rest = place) (hplace : place.rest = c :: u) :
    readBracket (fuel + 1) outer b s =
      if c = '[' then
        match readPosix? place with
        | some (k, s) =>
          if s.flags.admits k then readBracket fuel outer (b.add ⟨k, 0⟩) s else none
        | none =>
          match openBracket place u with
          | some (inner, s) => readBracket fuel (b :: outer) inner s
          | none => none
      else if c = ']' then
        match outer with
        | [] => some (b.closed place.flags, place.move u)
        | around :: outer =>
          if place.flags.admits (b.closed place.flags).value then
            readBracket fuel outer (around.add (b.closed place.flags)) (place.move u)
          else none
      else
        match setOp? (c :: u) with
        | some (op, v) => readBracket fuel outer (b.operate place.flags op) (place.move v)
        | none =>
          match readSetItem place with
          | some (k, s) => readBracket fuel outer (b.add ⟨k, 0⟩) s
          | none => none := by
  subst hs
  rw [readBracket]
  split
  case h_1 h => cases hplace.symm.trans h
  case h_7 hset hclose hinter hdiff hsymm =>
    have hop : setOp? (c :: u) = none := hplace ▸ setOp?_eq_none hinter hdiff hsymm
    have hc : c ≠ '[' := fun hc => hset u (hplace.trans (congrArg (· :: u) hc))
    have hc' : c ≠ ']' := fun hc => hclose u (hplace.trans (congrArg (· :: u) hc))
    rw [if_neg hc, if_neg hc']
    cases hu : setOp? (c :: u) with
    | none => rfl
    | some p => cases hop.symm.trans hu
  all_goals
    rename_i t h
    obtain ⟨rfl, rfl⟩ := List.cons.inj (hplace.symm.trans h)
    rfl

theorem readBracket_local (outer : List Bracket) (b : Bracket) :
    LocalIn fun fuel => readBracket fuel outer b := by
  intro fuel
  induction fuel generalizing outer b with
  | zero =>
    intro fuel' _ s t _ a s' read
    cases read
  | succ fuel ih =>
    intro fuel' hle s t h a s' read
    obtain ⟨fuel', rfl⟩ := Nat.exists_eq_add_one_of_ne_zero (n := fuel') (by omega)
    have hle' := Nat.le_of_succ_le_succ hle
    have place := h.onto_rest
    cases hs : (s.onto s.rest).rest with
    | nil => simp [readBracket, hs] at read
    | cons c u =>
      have ht : (t.onto t.rest).rest = c :: (u ++ ['$']) := by
        rw [place.eq_move hs, Scan.move_rest]
      have hplace := place.eq_move hs
      simp only [readBracket_place _ _ _ rfl hs] at read
      simp only [readBracket_place _ _ _ rfl ht]
      generalize t.onto t.rest = t₁ at place hplace
      generalize s.onto s.rest = s₁ at read place hplace hs
      subst hplace
      simp only [Scan.move_flags, Scan.move_move]
      by_cases hset : c = '['
      · rw [if_pos hset] at read ⊢
        have hposix := readPosix?_dollar s₁
        rw [hs, List.cons_append] at hposix
        rw [hposix]
        cases hnamed : readPosix? s₁ with
        | some p =>
          rw [hnamed] at read
          obtain ⟨admitted, read⟩ := Option.ite_none_right_eq_some.mp read
          obtain ⟨t', ht', h'⟩ := ih _ _ hle' (.shown p.2) read
          exact ⟨t', (if_pos admitted).trans ht', h'⟩
        | none =>
          rw [hnamed] at read
          have hopen : openBracket (s₁.move (c :: (u ++ ['$']))) (u ++ ['$']) =
              openBracket s₁ (u ++ ['$']) := rfl
          simp only [Option.map_none, hopen] at read ⊢
          cases hinner : openBracket s₁ u with
          | none => simp [hinner] at read
          | some p =>
            obtain ⟨t₂, ht₂, h₂⟩ := openBracket_local hinner
            rw [hinner] at read
            rw [ht₂]
            exact ih _ _ hle' h₂ read
      rw [if_neg hset] at read ⊢
      by_cases hclose : c = ']'
      · rw [if_pos hclose] at read ⊢
        cases outer with
        | nil =>
          obtain ⟨rfl, rfl⟩ := Prod.mk.inj (Option.some.inj read)
          exact ⟨_, rfl, followed_move s₁ u⟩
        | cons around outer =>
          obtain ⟨admitted, read⟩ := Option.ite_none_right_eq_some.mp read
          obtain ⟨t', ht', h'⟩ := ih _ _ hle' (followed_move s₁ u) read
          exact ⟨t', (if_pos admitted).trans ht', h'⟩
      rw [if_neg hclose] at read ⊢
      have hop := setOp?_dollar (c :: u)
      rw [List.cons_append] at hop
      rw [hop]
      cases hu : setOp? (c :: u) with
      | some p =>
        rw [hu] at read
        exact ih _ _ hle' (followed_move s₁ p.2) read
      | none =>
        rw [hu] at read
        simp only [Option.map_none] at read ⊢
        cases hitem : readSetItem s₁ with
        | none => simp [hitem] at read
        | some p =>
          obtain ⟨t₂, ht₂, h₂⟩ := readSetItem_local place hitem
          rw [hitem] at read
          rw [ht₂]
          exact ih _ _ hle' h₂ read

end Runbook.Pattern
