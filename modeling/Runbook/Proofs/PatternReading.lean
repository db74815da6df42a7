import Runbook.Pattern.Reader
import Runbook.Proofs.PatternMeaning

/-! # Patterns read token by token

Every round of the reader takes a token from the text, which depends on nothing but the place in the
text, and puts it into the expressions that are being read. A pattern that is read has alternatives,
and matches where one of them does.
-/
namespace Runbook.Pattern

inductive Token where
  | piece (r : Nested Regex)
  | flags
  | alternative
  | repetition (least : Nat) (most : Option Nat)
  | opening
  | closing

/-- The token that begins with a character, and the place after it. -/
def tokenAt (s : Scan) (t : Text) : Char → Option (Token × Scan)
  | '(' =>
    match readOpening (s.onto t) with
    | some (.flags s) => some (.flags, s)
    | some (.group s) => some (.opening, s)
    | none => none
  | ')' => some (.closing, s.move t)
  | '|' => some (.alternative, s.move t)
  | '[' =>
    match openBracket s t with
    | some (inner, s') =>
      match readBracket (s'.rest.length + 1) [] inner s' with
      | some (set, s') => (setRegex? s.flags set.value).map fun r => (.piece ⟨r, set.height⟩, s')
      | none => none
    | none => none
  | '?' => some (.repetition 0 (some 1), skipLazy (s.move t))
  | '*' => some (.repetition 0 none, skipLazy (s.move t))
  | '+' => some (.repetition 1 none, skipLazy (s.move t))
  | '\x7b' => (readCounts (s.onto t)).map fun p => (.repetition p.1.1 p.1.2, skipLazy p.2)
  | '.' => (dotRegex? s.flags).map fun r => (.piece ⟨r, 0⟩, s.move t)
  | '^' => some (.piece ⟨.look (startLook s.flags), 0⟩, s.move t)
  | '$' => some (.piece ⟨.look (endLook s.flags), 0⟩, s.move t)
  | '\\' =>
    match readEscape (s.move t) with
    | some (atom, s') => (atomRegex? s.flags atom).map fun r => (.piece ⟨r, 0⟩, s')
    | none => none
  | c => (atomRegex? s.flags (.literal c false)).map fun r => (.piece ⟨r, 0⟩, s.move t)

def readToken (s : Scan) : Option (Token × Scan) :=
  match (s.onto s.rest).rest with
  | [] => none
  | c :: t => tokenAt (s.onto s.rest) t c

structure Reading where
  frames : List Frame
  branches : Branches
  scan : Scan

namespace Reading

def start (pattern : Text) : Reading := ⟨[], .start, ⟨pattern, .initial, []⟩⟩

def AtEnd (r : Reading) : Prop := (r.scan.onto r.scan.rest).rest = []

/-- The reading after a token, which is followed by a place in the text. -/
def take? (r : Reading) (s : Scan) : Token → Option Reading
  | .piece p => some ⟨r.frames, r.branches.push p, s⟩
  | .flags => some ⟨r.frames, r.branches.pushFlags, s⟩
  | .alternative => some ⟨r.frames, r.branches.alternative, s⟩
  | .repetition least most =>
    (r.branches.repeatLast? least most).map fun b => ⟨r.frames, b, s⟩
  | .opening => some ⟨⟨r.branches, r.scan.flags⟩ :: r.frames, .start, s⟩
  | .closing =>
    match r.frames with
    | ⟨before, flags⟩ :: frames =>
      some ⟨frames, before.push ⟨r.branches.finish.value, r.branches.finish.height + 1⟩,
        { s with flags := flags }⟩
    | [] => none

def next? (r : Reading) : Option Reading := (readToken r.scan).bind fun p => r.take? p.2 p.1

theorem next?_of_token {r : Reading} {token : Token} {s : Scan}
    (h : readToken r.scan = some (token, s)) : r.next? = r.take? s token := by
  rw [next?, h]
  rfl

/-- One reading becomes another in a number of rounds. -/
inductive Reads : Nat → Reading → Reading → Prop
  | here (r : Reading) : Reads 0 r r
  | next {n : Nat} {r r' r'' : Reading} (first : r.next? = some r') (rest : Reads n r' r'') :
      Reads (n + 1) r r''

/-- What a round does with the character it begins with. -/
theorem readPattern_place (fuel : Nat) (r : Reading) :
    readPattern (fuel + 1) r.frames r.branches r.scan =
      match (r.scan.onto r.scan.rest).rest with
      | [] => if r.frames.isEmpty then some r.branches.finish else none
      | _ :: _ => r.next?.bind fun r => readPattern fuel r.frames r.branches r.scan := by
  obtain ⟨frames, b, s⟩ := r
  have hflags : (s.onto s.rest).flags = s.flags := rfl
  rw [readPattern, next?, readToken]
  generalize s.onto s.rest = place at hflags
  obtain ⟨rest, flags, names⟩ := place
  obtain rfl : flags = s.flags := hflags
  simp only []
  split
  case h_1 => rfl
  case h_2 t =>
    simp only [tokenAt]
    cases readOpening (Scan.onto ⟨'(' :: t, s.flags, names⟩ t) with
    | none => rfl
    | some o => cases o <;> rfl
  case h_3 t => cases frames <;> rfl
  case h_4 t => rfl
  case h_5 t =>
    simp only [tokenAt]
    cases openBracket ⟨'[' :: t, s.flags, names⟩ t with
    | none => rfl
    | some opened =>
      cases hset : readBracket (opened.2.rest.length + 1) [] opened.1 opened.2 with
      | none => simp [hset]
      | some set => cases hregex : setRegex? s.flags set.1.value <;> simp [hset, hregex, take?]
  case h_6 t => cases hb : b.repeatLast? 0 (some 1) <;> simp [tokenAt, take?, hb]
  case h_7 t => cases hb : b.repeatLast? 0 none <;> simp [tokenAt, take?, hb]
  case h_8 t => cases hb : b.repeatLast? 1 none <;> simp [tokenAt, take?, hb]
  case h_9 t =>
    simp only [tokenAt]
    cases readCounts (Scan.onto ⟨'\x7b' :: t, s.flags, names⟩ t) with
    | none => rfl
    | some counts => cases hb : b.repeatLast? counts.1.1 counts.1.2 <;> simp [take?, hb]
  case h_10 t => cases hdot : dotRegex? s.flags <;> simp [tokenAt, take?, hdot]
  case h_11 t => rfl
  case h_12 t => rfl
  case h_13 t =>
    simp only [tokenAt]
    cases readEscape (Scan.move ⟨'\\' :: t, s.flags, names⟩ t) with
    | none => rfl
    | some atom => cases hatom : atomRegex? s.flags atom.1 <;> simp [take?, hatom]
  case h_14 =>
    rename_i c t _ _ _ _ _ _ _ _ _ _ _ _
    cases hatom : atomRegex? s.flags (.literal c false) <;> simp [tokenAt, take?, hatom]

theorem next?_eq_none_of_atEnd {r : Reading} (h : r.AtEnd) : r.next? = none := by
  rw [AtEnd] at h
  rw [next?, readToken, h]
  rfl

/-- A pattern is read where rounds lead to its end, with no group left open. -/
theorem readPattern_eq_some_iff {fuel : Nat} {r : Reading} {x : Nested Regex} :
    readPattern fuel r.frames r.branches r.scan = some x ↔
      ∃ n < fuel, ∃ r', Reads n r r' ∧ r'.AtEnd ∧ r'.frames = [] ∧ x = r'.branches.finish := by
  induction fuel generalizing r with
  | zero => simp [readPattern]
  | succ fuel ih =>
    rw [readPattern_place]
    split
    · rename_i hend
      have atEnd : r.AtEnd := hend
      constructor
      · intro h
        obtain ⟨hframes, hx⟩ := Option.ite_none_right_eq_some.mp h
        exact ⟨0, Nat.zero_lt_succ fuel, r, .here r, atEnd, List.isEmpty_iff.mp hframes,
          (Option.some.inj hx).symm⟩
      · rintro ⟨n, -, r', reads, -, hframes, rfl⟩
        cases reads with
        | here => rw [hframes, List.isEmpty_nil, if_pos rfl]
        | next first rest =>
          rw [next?_eq_none_of_atEnd atEnd] at first
          cases first
    · rename_i c t hplace
      rw [Option.bind_eq_some_iff]
      constructor
      · rintro ⟨r₁, first, h⟩
        obtain ⟨n, hn, r', reads, hrest⟩ := ih.mp h
        exact ⟨n + 1, Nat.succ_lt_succ hn, r', .next first reads, hrest⟩
      · rintro ⟨n, hn, r', reads, atEnd, hrest⟩
        cases reads with
        | here =>
          rw [AtEnd, hplace] at atEnd
          cases atEnd
        | next first reads =>
          exact ⟨_, first, ih.mpr ⟨_, Nat.lt_of_succ_lt_succ hn, r', reads, atEnd, hrest⟩⟩

theorem Reads.append {m n : Nat} {r r' r'' : Reading} (h : Reads m r r') (h' : Reads n r' r'') :
    Reads (m + n) r r'' := by
  induction h with
  | here r => rwa [Nat.zero_add]
  | next first _ ih =>
    rw [Nat.succ_add]
    exact .next first (ih h')

/-- A text has one reading at its end. -/
theorem Reads.eq_of_atEnd {m n : Nat} {r r' r'' : Reading} (h : Reads m r r') (h' : Reads n r r'')
    (atEnd : r'.AtEnd) (atEnd' : r''.AtEnd) : r' = r'' := by
  induction h generalizing n with
  | here r =>
    cases h' with
    | here => rfl
    | next first => cases (next?_eq_none_of_atEnd atEnd).symm.trans first
  | next first _ ih =>
    cases h' with
    | here => cases (next?_eq_none_of_atEnd atEnd').symm.trans first
    | next first' rest' =>
      obtain rfl := Option.some.inj (first.symm.trans first')
      exact ih rest' atEnd

end Reading

/-- A pattern is refused for what it needs only after it is read. -/
theorem parse_of_reads {pattern : Text} {n : Nat} {r : Reading}
    (reads : (Reading.start pattern).Reads n r) (rounds : n ≤ pattern.length) (atEnd : r.AtEnd)
    (closed : r.frames = []) (shallow : r.branches.finish.height ≤ nestingLimit) :
    parse pattern =
      if sizeLimit < r.branches.finish.value.footprint then .error .tooLarge
      else .ok r.branches.finish.value := by
  have hread : readPattern (pattern.length + 1) [] .start ⟨pattern, .initial, []⟩ =
      some r.branches.finish :=
    Reading.readPattern_eq_some_iff (r := .start pattern).mpr
      ⟨n, Nat.lt_succ_of_le rounds, r, reads, atEnd, closed, rfl⟩
  rw [parse, hread]
  simp only [if_neg (Nat.not_lt.mpr shallow)]

theorem foldl_max_le_iff {l : List Nat} {a m : Nat} :
    l.foldl max a ≤ m ↔ a ≤ m ∧ ∀ x ∈ l, x ≤ m := by
  induction l generalizing a with
  | nil => simp
  | cons x l ih => simp [ih, and_assoc]

/-! ## Sequences and alternatives -/

def sequenceOf (pieces : List Piece) : Regex :=
  pieces.foldr (fun p r => .seq p.regex.value r) .empty

variable {text : Text} {i j k : Nat}

theorem matches_sequenceOf_append {ps qs : List Piece} :
    (sequenceOf (ps ++ qs)).Matches text i k ↔
      ∃ j, (sequenceOf ps).Matches text i j ∧ (sequenceOf qs).Matches text j k := by
  induction ps generalizing i with
  | nil => simp [sequenceOf, Regex.Matches]
  | cons p ps ih =>
    have hseq : ∀ qs, sequenceOf (p :: qs) = .seq p.regex.value (sequenceOf qs) := fun _ => rfl
    rw [List.cons_append, hseq, hseq]
    simp only [Regex.Matches, ih]
    constructor
    · rintro ⟨l, hl, j, hj, hk⟩
      exact ⟨j, ⟨l, hl, hj⟩, hk⟩
    · rintro ⟨j, ⟨l, hl, hj⟩, hk⟩
      exact ⟨l, hl, j, hj, hk⟩

theorem matches_sequenceOf_singleton {p : Piece} :
    (sequenceOf [p]).Matches text i j ↔ p.regex.value.Matches text i j := by
  simp [sequenceOf, Regex.Matches]

/-- A sequence takes what its pieces take. -/
theorem size_sequenceOf {ps : List Piece} (some : ps ≠ [])
    (full : ∀ p ∈ ps, p.regex.value.isEmpty = false) :
    (sequenceOf ps).size = (ps.map fun p => p.regex.value.size).sum := by
  induction ps with
  | nil => exact absurd rfl some
  | cons p ps ih =>
    obtain ⟨hp, hps⟩ := List.forall_mem_cons.mp full
    have hsize : (sequenceOf (p :: ps)).size = p.regex.value.size +
        if (sequenceOf ps).isEmpty then 0 else (sequenceOf ps).size := by
      change (Regex.seq p.regex.value (sequenceOf ps)).size = _
      rw [Regex.size, hp]
      rfl
    rw [hsize, List.map_cons, List.sum_cons]
    cases ps with
    | nil => rfl
    | cons q qs =>
      rw [← ih (List.cons_ne_nil q qs) hps]
      rfl

namespace Branches

theorem sequence_eq {b : Branches} (h : 2 ≤ b.pieces.length) :
    b.sequence = ⟨sequenceOf b.pieces.reverse,
      (b.pieces.map (·.regex.height)).foldl max 0 + 1⟩ := by
  obtain ⟨done, pieces⟩ := b
  match pieces, h with
  | p :: q :: ps, _ =>
    rw [sequenceOf, List.foldr_reverse]
    rfl

theorem matches_sequence {b : Branches} :
    b.sequence.value.Matches text i j ↔ (sequenceOf b.pieces.reverse).Matches text i j := by
  obtain ⟨done, pieces⟩ := b
  match pieces with
  | [] => rfl
  | [p] => exact matches_sequenceOf_singleton.symm
  | p :: q :: ps => rw [sequence_eq (by simp)]

def alternatives (b : Branches) : List Regex := (b.done.reverse ++ [b.sequence]).map (·.value)

theorem matches_foldl_alt {done : List (Nested Regex)} {r : Regex} :
    (done.foldl (fun r p => .alt p.value r) r).Matches text i j ↔
      (∃ p ∈ done, p.value.Matches text i j) ∨ r.Matches text i j := by
  induction done generalizing r with
  | nil => simp
  | cons p done ih => simp [ih, Regex.Matches, or_assoc, or_left_comm]

theorem matches_finish {b : Branches} :
    b.finish.value.Matches text i j ↔ ∃ r ∈ b.alternatives, r.Matches text i j := by
  obtain ⟨done, pieces⟩ := b
  have hfinish : (finish ⟨done, pieces⟩).value =
      done.foldl (fun r p => .alt p.value r) (sequence ⟨done, pieces⟩).value := by
    cases done <;> rfl
  rw [hfinish, matches_foldl_alt]
  simp [alternatives, or_and_right, exists_or]

end Branches

end Runbook.Pattern
