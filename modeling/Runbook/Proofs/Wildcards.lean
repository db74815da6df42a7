import Runbook.Pattern.Glob
import Runbook.Proofs.PatternReading

/-! # Wildcards

In a glob without other notation of expressions an asterisk stands for any characters and a dot for
one, line feeds excepted, and every other character for itself. The glob matches the names that can
be cut accordingly.
-/
namespace Runbook.Pattern

/-! ## Parts of a text -/

theorem append_prefix_iff {run rest t : Text} :
    run ++ rest <+: t ↔ run <+: t ∧ rest <+: t.drop run.length := by
  constructor
  · rintro ⟨more, rfl⟩
    refine ⟨⟨rest ++ more, (List.append_assoc _ _ _).symm⟩, more, ?_⟩
    rw [List.append_assoc, List.drop_left]
  · rintro ⟨⟨more, rfl⟩, hrest⟩
    rw [List.drop_left] at hrest
    exact (List.prefix_append_right_inj run).mpr hrest

theorem singleton_prefix_iff {c : Char} {t : Text} : [c] <+: t ↔ t.head? = some c := by
  cases t with
  | nil => simp
  | cons d t => simp [eq_comm]

theorem mem_single_iff {c d : Char} : (CharSet.single c.toNat).mem d.toNat = true ↔ d = c := by
  have htoNat : d.toNat = c.toNat ↔ d = c := Char.toNat_inj
  rw [← htoNat, CharSet.single, CharSet.mem, Bool.and_eq_true, decide_eq_true_eq,
    decide_eq_true_eq, eq_comm]
  exact Nat.le_antisymm_iff.symm

namespace Glob

def body (glob : Text) : Text :=
  glob.flatMap fun c => if c = wildcard then ".*".toList else [c]

theorem source_eq (glob : Text) : source glob = '^' :: (body glob ++ ['$']) := rfl

/-- The characters that begin a notation of expressions, the asterisk and the dot aside. -/
def reserved : List Char := ['\\', '+', '?', '(', ')', '|', '[', '\x7b', '^', '$']

def Simple (glob : Text) : Prop := ∀ c ∈ glob, c ∉ reserved

instance (glob : Text) : Decidable (Simple glob) := List.decidableBAll _ _

/-- What a character of a glob stands for. -/
inductive Stands : Char → Text → Prop
  | many {run : Text} (noFeed : '\n' ∉ run) : Stands wildcard run
  | one {c : Char} (noFeed : c ≠ '\n') : Stands '.' [c]
  | self {c : Char} (noWildcard : c ≠ wildcard) (noDot : c ≠ '.') : Stands c [c]

/-- The name can be cut into parts for which the characters of the glob stand. -/
inductive Covers : Text → Text → Prop
  | nil : Covers [] []
  | cons {c : Char} {run glob name : Text} (first : Stands c run) (rest : Covers glob name) :
      Covers (c :: glob) (run ++ name)

/-- The name is the glob with something in place of its asterisks. -/
inductive Fills : Text → Text → Prop
  | nil : Fills [] []
  | wildcard {run glob name : Text} (rest : Fills glob name) :
      Fills (Glob.wildcard :: glob) (run ++ name)
  | self {c : Char} {glob name : Text} (noWildcard : c ≠ Glob.wildcard) (rest : Fills glob name) :
      Fills (c :: glob) (c :: name)

variable {glob name : Text}

theorem Fills.covers (h : Fills glob name) (noFeed : '\n' ∉ name) : Covers glob name := by
  induction h with
  | nil => exact .nil
  | wildcard _ ih =>
    rw [List.mem_append, not_or] at noFeed
    exact .cons (.many noFeed.1) (ih noFeed.2)
  | @self c glob name noWildcard _ ih =>
    rw [List.mem_cons, not_or] at noFeed
    have hrest := ih noFeed.2
    by_cases hdot : c = '.'
    · subst hdot
      exact @Covers.cons _ ['.'] _ _ (.one (by decide)) hrest
    · exact @Covers.cons _ [c] _ _ (.self noWildcard hdot) hrest

/-! ## Reading a simple glob -/

def dot : Regex := .set (.complement (.single 10))

def pieceOf (c : Char) : Piece :=
  if c = wildcard then ⟨⟨.repeated dot 0 none, 1⟩, false⟩
  else if c = '.' then ⟨⟨dot, 0⟩, false⟩
  else ⟨⟨.set (.single c.toNat), 0⟩, false⟩

theorem next?_plain {c : Char} (simple : c ∉ reserved) (noWildcard : c ≠ wildcard)
    (done : List (Nested Regex)) (ps : List Piece) (t : Text) :
    Reading.next? ⟨[], ⟨done, ps⟩, ⟨c :: t, .initial, []⟩⟩ =
      some ⟨[], ⟨done, pieceOf c :: ps⟩, ⟨t, .initial, []⟩⟩ := by
  have hplace : readToken ⟨c :: t, .initial, []⟩ = tokenAt ⟨c :: t, .initial, []⟩ t c := rfl
  have htoken : tokenAt ⟨c :: t, .initial, []⟩ t c =
      some (.piece (pieceOf c).regex, ⟨t, .initial, []⟩) := by
    by_cases hdot : c = '.'
    · subst hdot
      rfl
    · simp only [reserved, List.mem_cons, List.not_mem_nil, or_false, not_or] at simple
      rw [pieceOf, if_neg noWildcard, if_neg hdot]
      rw [wildcard] at noWildcard
      simp [tokenAt, simple, atomRegex?, Flags.initial, Flags.close, Scan.move]
  have hflags : (pieceOf c).isFlags = false := by
    simp only [pieceOf]
    split
    · rfl
    · split <;> rfl
  rw [Reading.next?, hplace, htoken]
  simp only [Option.bind_some, Reading.take?, Branches.push, ← hflags]

theorem reads_wildcard (done : List (Nested Regex)) (ps : List Piece) {t : Text}
    (notLazy : t.head? ≠ some '?') :
    Reading.Reads 2 ⟨[], ⟨done, ps⟩, ⟨'.' :: '*' :: t, .initial, []⟩⟩
      ⟨[], ⟨done, pieceOf wildcard :: ps⟩, ⟨t, .initial, []⟩⟩ := by
  have hdot : Reading.next? ⟨[], ⟨done, ps⟩, ⟨'.' :: '*' :: t, .initial, []⟩⟩ =
      some ⟨[], ⟨done, pieceOf '.' :: ps⟩, ⟨'*' :: t, .initial, []⟩⟩ :=
    next?_plain (by decide) (by decide) done ps _
  have hlazy : skipLazy ⟨t, .initial, []⟩ = ⟨t, .initial, []⟩ := by
    rw [skipLazy]
    split
    · rename_i rest ht
      exact absurd (congrArg List.head? ht) notLazy
    · rfl
  have hmany : Reading.next? ⟨[], ⟨done, pieceOf '.' :: ps⟩, ⟨'*' :: t, .initial, []⟩⟩ =
      some ⟨[], ⟨done, pieceOf wildcard :: ps⟩, skipLazy ⟨t, .initial, []⟩⟩ := rfl
  rw [hlazy] at hmany
  exact .next hdot (.next hmany (.here _))

theorem head?_body_append (simple : Simple glob) : (body glob ++ ['$']).head? ≠ some '?' := by
  cases glob with
  | nil => decide
  | cons c glob =>
    have hc : c ≠ '?' := fun h => simple c List.mem_cons_self (h ▸ by decide)
    rw [body, List.flatMap_cons]
    split
    · simp
    · simpa using hc

theorem reads_body (simple : Simple glob) (done : List (Nested Regex)) (ps : List Piece) :
    Reading.Reads (body glob).length ⟨[], ⟨done, ps⟩, ⟨body glob ++ ['$'], .initial, []⟩⟩
      ⟨[], ⟨done, (glob.map pieceOf).reverse ++ ps⟩, ⟨['$'], .initial, []⟩⟩ := by
  induction glob generalizing ps with
  | nil => exact .here _
  | cons c glob ih =>
    obtain ⟨hc, hglob⟩ := List.forall_mem_cons.mp simple
    have hrest := ih hglob (pieceOf c :: ps)
    have hpieces : ((c :: glob).map pieceOf).reverse ++ ps =
        (glob.map pieceOf).reverse ++ pieceOf c :: ps := by simp
    rw [hpieces]
    by_cases hwildcard : c = wildcard
    · subst hwildcard
      have hbody : body (wildcard :: glob) = '.' :: '*' :: body glob := rfl
      rw [hbody, List.length_cons, List.length_cons, Nat.add_assoc, Nat.add_comm]
      exact (reads_wildcard done ps (head?_body_append hglob)).append hrest
    · have hbody : body (c :: glob) = c :: body glob := by simp [body, hwildcard]
      rw [hbody]
      exact .next (next?_plain hc hwildcard done ps _) hrest

def piecesOf (glob : Text) : List Piece :=
  ⟨⟨.look .textEnd, 0⟩, false⟩ :: ((glob.map pieceOf).reverse ++ [⟨⟨.look .textStart, 0⟩, false⟩])

theorem reads_source (simple : Simple glob) :
    Reading.Reads (source glob).length (.start (source glob))
      ⟨[], ⟨[], piecesOf glob⟩, ⟨[], .initial, []⟩⟩ := by
  have hlength : (source glob).length = 1 + ((body glob).length + 1) := by
    simp [source_eq, Nat.add_comm]
  have hstart : Reading.Reads 1 (.start (source glob))
      ⟨[], ⟨[], [⟨⟨.look .textStart, 0⟩, false⟩]⟩, ⟨body glob ++ ['$'], .initial, []⟩⟩ :=
    .next rfl (.here _)
  rw [hlength]
  exact hstart.append ((reads_body simple [] _).append (.next rfl (.here _)))

theorem byteCount_toNat (c : Char) : byteCount c.toNat = c.utf8Size := by
  have hval : c.toNat = c.val.toNat := rfl
  simp only [byteCount, Char.utf8Size, UInt32.le_iff_toNat_le, hval]
  grind

def charSize (c : Char) : Nat :=
  if c = wildcard then 1040 else if c = '.' then 1000 else stateSize * c.utf8Size

theorem size_pieceOf (c : Char) : (pieceOf c).regex.value.size = charSize c := by
  rw [pieceOf, charSize]
  split
  · rfl
  · split
    · rfl
    · simp only [Regex.size, CharSet.single, CharSet.size, if_true, byteCount_toNat]

theorem isEmpty_pieceOf (c : Char) : (pieceOf c).regex.value.isEmpty = false := by
  rw [pieceOf]
  split
  · rfl
  · split <;> rfl

/-- What a simple glob takes with its anchors. -/
def footprint (glob : Text) : Nat := (glob.map charSize).sum + 6 * stateSize

theorem charSize_le (c : Char) : charSize c ≤ 1040 := by
  have hsize : c.utf8Size ≤ 4 := Char.utf8Size_le_four c
  rw [charSize, stateSize]
  split
  · exact Nat.le_refl 1040
  · split <;> omega

theorem footprint_le (glob : Text) : footprint glob ≤ 1040 * glob.length + 6 * stateSize := by
  have hsum : (glob.map charSize).sum ≤ 1040 * glob.length := by
    induction glob with
    | nil => exact Nat.le_refl 0
    | cons c glob ih =>
      have hc := charSize_le c
      rw [List.map_cons, List.sum_cons, List.length_cons]
      omega
  exact Nat.add_le_add_right hsum _

theorem sequence_piecesOf (glob : Text) : Branches.finish ⟨[], piecesOf glob⟩ =
    ⟨sequenceOf (piecesOf glob).reverse,
      ((piecesOf glob).map (·.regex.height)).foldl max 0 + 1⟩ :=
  Branches.sequence_eq (by simp [piecesOf])

theorem height_piecesOf (glob : Text) :
    (Branches.finish ⟨[], piecesOf glob⟩).height ≤ nestingLimit := by
  have hheights : ((piecesOf glob).map (·.regex.height)).foldl max 0 ≤ 1 := by
    rw [foldl_max_le_iff]
    refine ⟨Nat.zero_le 1, ?_⟩
    simp only [piecesOf, List.map_cons, List.map_append, List.map_reverse, List.map_map,
      List.mem_cons, List.mem_append, List.mem_reverse, List.mem_map, List.map_nil,
      List.not_mem_nil, or_false]
    rintro height (rfl | ⟨c, -, rfl⟩ | rfl)
    · exact Nat.zero_le 1
    · simp only [Function.comp_apply, pieceOf]
      split
      · exact Nat.le_refl 1
      · split <;> exact Nat.zero_le 1
    · exact Nat.zero_le 1
  rw [sequence_piecesOf]
  exact Nat.le_trans (Nat.succ_le_succ hheights) (by decide)

theorem reverse_piecesOf (glob : Text) : (piecesOf glob).reverse =
    [⟨⟨.look .textStart, 0⟩, false⟩] ++ (glob.map pieceOf ++ [⟨⟨.look .textEnd, 0⟩, false⟩]) := by
  simp [piecesOf]

theorem footprint_piecesOf (glob : Text) :
    (Branches.finish ⟨[], piecesOf glob⟩).value.footprint = footprint glob := by
  have hfull : ∀ p ∈ (piecesOf glob).reverse, p.regex.value.isEmpty = false := by
    rw [reverse_piecesOf]
    simp only [List.mem_append, List.mem_singleton, List.mem_map]
    rintro p (rfl | ⟨c, -, rfl⟩ | rfl)
    · rfl
    · exact isEmpty_pieceOf c
    · rfl
  have hsome : (piecesOf glob).reverse ≠ [] := by simp [piecesOf]
  have hsizes : ((glob.map pieceOf).map fun p => p.regex.value.size) = glob.map charSize := by
    rw [List.map_map]
    exact List.map_congr_left fun c _ => size_pieceOf c
  rw [sequence_piecesOf, Regex.footprint, size_sequenceOf hsome hfull, reverse_piecesOf, footprint]
  simp only [List.map_append, List.sum_append, hsizes, List.map_cons, List.map_nil, List.sum_cons,
    List.sum_nil, Regex.size]
  omega

theorem matches_piecesOf {text : Text} {i j : Nat} :
    (Branches.finish ⟨[], piecesOf glob⟩).value.Matches text i j ↔
      i = 0 ∧ j = text.length ∧ (sequenceOf (glob.map pieceOf)).Matches text i j := by
  rw [sequence_piecesOf, reverse_piecesOf]
  simp only [matches_sequenceOf_append, matches_sequenceOf_singleton, Regex.Matches,
    Look.at_textStart_iff, Look.at_textEnd_iff]
  constructor
  · rintro ⟨_, ⟨rfl, rfl⟩, _, hseq, rfl, rfl⟩
    exact ⟨rfl, rfl, hseq⟩
  · rintro ⟨rfl, rfl, hseq⟩
    exact ⟨0, ⟨rfl, rfl⟩, text.length, hseq, rfl, rfl⟩

/-! ## Matching -/

variable {i j k n : Nat}

theorem matches_set_iff {c : CharSet} {text : Text} :
    (Regex.set c).Matches text i k ↔
      ∃ ch, c.mem ch.toNat = true ∧ [ch] <+: text.drop i ∧ k = i + 1 := by
  simp only [Regex.Matches, singleton_prefix_iff, List.head?_drop]
  constructor
  · rintro ⟨hk, ch, hch, hmem⟩
    exact ⟨ch, hmem, hch, hk⟩
  · rintro ⟨ch, hmem, hch, hk⟩
    exact ⟨hk, ch, hch, hmem⟩

theorem matches_dot_iff {text : Text} :
    dot.Matches text i k ↔ ∃ c, c ≠ '\n' ∧ [c] <+: text.drop i ∧ k = i + 1 := by
  have hmem : ∀ c : Char, (CharSet.complement (.single 10)).mem c.toNat = true ↔ c ≠ '\n' := by
    intro c
    have hfeed : (CharSet.single '\n'.toNat).mem c.toNat = true ↔ c = '\n' := mem_single_iff
    rw [CharSet.mem, Bool.not_eq_true', ← Bool.not_eq_true]
    exact not_congr hfeed
  simp only [dot, matches_set_iff, hmem]

/-- A dot that is repeated runs over characters that are no line feeds. -/
theorem times_dot_iff {text : Text} : Times (dot.Matches text) n i k ↔
    ∃ run, run.length = n ∧ '\n' ∉ run ∧ run <+: text.drop i ∧ k = i + n := by
  induction n generalizing i with
  | zero =>
    constructor
    · rintro rfl
      exact ⟨[], rfl, List.not_mem_nil, List.nil_prefix, rfl⟩
    · rintro ⟨run, -, -, -, hk⟩
      exact hk.symm
  | succ n ih =>
    simp only [Times, ih, matches_dot_iff]
    constructor
    · rintro ⟨_, ⟨c, hc, hfirst, rfl⟩, run, rfl, noFeed, hrun, rfl⟩
      refine ⟨[c] ++ run, by simp, by simp [noFeed, hc.symm], ?_, by omega⟩
      rw [append_prefix_iff, List.drop_drop]
      exact ⟨hfirst, hrun⟩
    · rintro ⟨run, hlength, noFeed, hrun, rfl⟩
      obtain ⟨c, run, rfl⟩ := List.exists_cons_of_length_eq_add_one hlength
      rw [← List.singleton_append, append_prefix_iff, List.drop_drop] at hrun
      rw [List.mem_cons, not_or] at noFeed
      exact ⟨i + 1, ⟨c, Ne.symm noFeed.1, hrun.1, rfl⟩, run, Nat.succ.inj hlength, noFeed.2,
        hrun.2, by omega⟩

/-- A piece matches the parts for which its character stands. -/
theorem matches_pieceOf_iff {c : Char} {text : Text} :
    (pieceOf c).regex.value.Matches text i k ↔
      ∃ run, Stands c run ∧ run <+: text.drop i ∧ k = i + run.length := by
  by_cases hwildcard : c = wildcard
  · subst hwildcard
    rw [pieceOf, if_pos rfl]
    simp only [Regex.Matches, Nat.zero_add, times_dot_iff]
    constructor
    · rintro ⟨_, -, run, rfl, noFeed, hrun, hk⟩
      exact ⟨run, .many noFeed, hrun, hk⟩
    · rintro ⟨run, stands, hrun, hk⟩
      cases stands with
      | many noFeed => exact ⟨run.length, by simp, run, rfl, noFeed, hrun, hk⟩
      | self noWildcard => exact absurd rfl noWildcard
  · by_cases hdot : c = '.'
    · subst hdot
      rw [pieceOf, if_neg hwildcard, if_pos rfl]
      simp only [matches_dot_iff]
      constructor
      · rintro ⟨ch, hch, hrun, hk⟩
        exact ⟨[ch], .one hch, hrun, hk⟩
      · rintro ⟨run, stands, hrun, hk⟩
        cases stands with
        | one noFeed => exact ⟨_, noFeed, hrun, hk⟩
        | self _ noDot => exact absurd rfl noDot
    · rw [pieceOf, if_neg hwildcard, if_neg hdot]
      simp only [matches_set_iff, mem_single_iff]
      constructor
      · rintro ⟨ch, rfl, hrun, hk⟩
        exact ⟨[ch], .self hwildcard hdot, hrun, hk⟩
      · rintro ⟨run, stands, hrun, hk⟩
        cases stands with
        | many => exact absurd rfl hwildcard
        | one => exact absurd rfl hdot
        | self => exact ⟨c, rfl, hrun, hk⟩

theorem matches_map_pieceOf_iff {text : Text} :
    (sequenceOf (glob.map pieceOf)).Matches text i k ↔
      ∃ part, Covers glob part ∧ part <+: text.drop i ∧ k = i + part.length := by
  induction glob generalizing i with
  | nil =>
    constructor
    · rintro rfl
      exact ⟨[], .nil, List.nil_prefix, rfl⟩
    · rintro ⟨part, covers, -, hk⟩
      cases covers
      exact hk.symm
  | cons c glob ih =>
    have hcons : (sequenceOf ((c :: glob).map pieceOf)).Matches text i k ↔
        ∃ j, (pieceOf c).regex.value.Matches text i j ∧
          (sequenceOf (glob.map pieceOf)).Matches text j k := Iff.rfl
    simp only [hcons, matches_pieceOf_iff, ih]
    constructor
    · rintro ⟨_, ⟨run, stands, hrun, rfl⟩, part, covers, hpart, rfl⟩
      refine ⟨run ++ part, .cons stands covers, ?_, ?_⟩
      · rw [append_prefix_iff, List.drop_drop]
        exact ⟨hrun, hpart⟩
      · rw [List.length_append, Nat.add_assoc]
    · rintro ⟨part, covers, hpart, rfl⟩
      cases covers with
      | @cons _ run _ part stands covers =>
        rw [append_prefix_iff, List.drop_drop] at hpart
        refine ⟨_, ⟨run, stands, hpart.1, rfl⟩, part, covers, hpart.2, ?_⟩
        rw [List.length_append, Nat.add_assoc]

theorem isMatch_piecesOf_iff :
    (Branches.finish ⟨[], piecesOf glob⟩).value.isMatch name = true ↔ Covers glob name := by
  simp only [Regex.isMatch_iff, matches_piecesOf, matches_map_pieceOf_iff]
  constructor
  · rintro ⟨_, _, -, rfl, rfl, part, covers, hpart, hlength⟩
    rw [List.drop_zero] at hpart
    rwa [← hpart.eq_of_length (by omega)]
  · intro covers
    exact ⟨0, name.length, Nat.zero_le _, rfl, rfl, name, covers, List.prefix_rfl, by simp⟩

/-- A simple glob that is not too large compiles, and matches the names that it covers, and so the
names without line feeds that differ from it by what stands for its asterisks. -/
theorem isMatch_iff_covers {glob : Text} (simple : Simple glob) :
    (compile glob = .error .tooLarge ↔ sizeLimit < footprint glob) ∧
      (glob.length ≤ 10000 → compile glob ≠ .error .tooLarge) ∧
      (compile glob ≠ .error .tooLarge → ∃ r, compile glob = .ok r ∧
        (∀ name, r.isMatch name = true ↔ Covers glob name) ∧
        ∀ name, Fills glob name → '\n' ∉ name → r.isMatch name = true) := by
  have hcompile : compile glob =
      if sizeLimit < (Branches.finish ⟨[], piecesOf glob⟩).value.footprint then .error .tooLarge
      else .ok (Branches.finish ⟨[], piecesOf glob⟩).value :=
    parse_of_reads (reads_source simple) (Nat.le_refl _) rfl rfl (height_piecesOf glob)
  rw [footprint_piecesOf] at hcompile
  have hlarge : compile glob = .error .tooLarge ↔ sizeLimit < footprint glob := by
    rw [hcompile]
    split <;> simp_all
  refine ⟨hlarge, fun short large => ?_, fun fits => ?_⟩
  · have hbound := footprint_le glob
    have hlimit := hlarge.mp large
    rw [sizeLimit] at hlimit
    rw [stateSize] at hbound
    omega
  · rw [if_neg fun h => fits (hlarge.mpr h)] at hcompile
    exact ⟨_, hcompile, fun name => isMatch_piecesOf_iff,
      fun name fills noFeed => isMatch_piecesOf_iff.mpr (fills.covers noFeed)⟩

/-- The second asterisk and the last stand for nothing, and the dot for a letter. -/
theorem isMatch_iff_covers_twoStars :
    let glob := "a**.é*".toList
    Simple glob ∧ ∃ r, compile glob = .ok r ∧
      (∀ name, r.isMatch name = true ↔ Covers glob name) ∧
      r.isMatch "a-xé".toList = true ∧ r.isMatch "a.\té\r*".toList = true := by
  intro glob
  have simple : Simple glob := by decide
  obtain ⟨-, fits, hcompile⟩ := isMatch_iff_covers simple
  obtain ⟨r, hr, hcovers, -⟩ := hcompile (fits (by decide))
  have first : Covers glob "a-xé".toList :=
    @Covers.cons _ ['a'] _ _ (.self (by decide) (by decide)) <|
    @Covers.cons _ ['-'] _ _ (.many (by decide)) <| @Covers.cons _ [] _ _ (.many (by decide)) <|
    @Covers.cons _ ['x'] _ _ (.one (by decide)) <|
    @Covers.cons _ ['é'] _ _ (.self (by decide) (by decide)) <|
    @Covers.cons _ [] _ _ (.many (by decide)) .nil
  have second : Covers glob "a.\té\r*".toList :=
    @Covers.cons _ ['a'] _ _ (.self (by decide) (by decide)) <|
    @Covers.cons _ ['.'] _ _ (.many (by decide)) <| @Covers.cons _ [] _ _ (.many (by decide)) <|
    @Covers.cons _ ['\t'] _ _ (.one (by decide)) <|
    @Covers.cons _ ['é'] _ _ (.self (by decide) (by decide)) <|
    @Covers.cons _ ['\r', '*'] _ _ (.many (by decide)) .nil
  exact ⟨simple, r, hr, hcovers, (hcovers _).mpr first, (hcovers _).mpr second⟩

end Glob

end Runbook.Pattern
