import Runbook.Proofs.TokenLocality
import Runbook.Proofs.Wildcards

/-! # Where the anchors of a glob hold

The anchors are written before and after the text of a glob, so that the first belongs to the first
alternative of the expression and the second to the last one. A glob with one alternative matches
whole names. In another glob an alternative may match at any place of a name, or up to any place.
-/
namespace Runbook.Pattern

def caret : Piece := ⟨⟨.look .textStart, 0⟩, false⟩

variable {text : Text} {i j : Nat}

/-! ## Heights -/

namespace Branches

theorem height_le_sequence {b : Branches} {p : Piece} (hp : p ∈ b.pieces) :
    p.regex.height ≤ b.sequence.height := by
  obtain ⟨done, pieces⟩ := b
  match pieces with
  | [] => cases hp
  | [q] =>
    obtain rfl := List.mem_singleton.mp hp
    exact Nat.le_refl _
  | q :: q' :: ps =>
    rw [sequence_eq (by simp)]
    exact Nat.le_succ_of_le ((foldl_max_le_iff.mp (Nat.le_refl _)).2 _
      (List.mem_map_of_mem (f := fun p : Piece => p.regex.height) hp))

theorem sequence_height_le {b : Branches} {m : Nat} (h : ∀ p ∈ b.pieces, p.regex.height ≤ m) :
    b.sequence.height ≤ m + 1 := by
  obtain ⟨done, pieces⟩ := b
  match pieces with
  | [] => exact Nat.zero_le _
  | [p] => exact Nat.le_succ_of_le (h p List.mem_cons_self)
  | p :: q :: ps =>
    rw [sequence_eq (by simp)]
    refine Nat.succ_le_succ (foldl_max_le_iff.mpr ⟨Nat.zero_le m, ?_⟩)
    intro height hheight
    obtain ⟨p', hp', rfl⟩ := List.mem_map.mp hheight
    exact h p' hp'

theorem finish_height_le_iff {b : Branches} (h : b.done ≠ []) {m : Nat} :
    b.finish.height ≤ m ↔ b.sequence.height < m ∧ ∀ r ∈ b.done, r.height < m := by
  obtain ⟨done, pieces⟩ := b
  match done, h with
  | r :: rs, _ =>
    have hheight : (finish ⟨r :: rs, pieces⟩).height =
        ((sequence ⟨r :: rs, pieces⟩ :: r :: rs).map (·.height)).foldl max 0 + 1 := rfl
    cases m with
    | zero => simp [hheight]
    | succ m =>
      rw [hheight, Nat.add_le_add_iff_right, foldl_max_le_iff]
      simp

end Branches

/-! ## The end of a pattern -/

namespace Branches

def closeWith (b : Branches) : Option Look → Branches
  | none => b
  | some l => b.push ⟨.look l, 0⟩

theorem closeWith_done (b : Branches) (tail : Option Look) : (b.closeWith tail).done = b.done := by
  cases tail <;> rfl

theorem matches_closeWith {b : Branches} {tail : Option Look} :
    (b.closeWith tail).sequence.value.Matches text i j ↔
      b.sequence.value.Matches text i j ∧ ∀ l ∈ tail, l.At text j := by
  cases tail with
  | none => simp [closeWith]
  | some l =>
    simp only [matches_sequence, closeWith, push, List.reverse_cons, matches_sequenceOf_append,
      matches_sequenceOf_singleton, Regex.Matches]
    constructor
    · rintro ⟨_, hb, rfl, hl⟩
      refine ⟨hb, fun l' hl' => ?_⟩
      obtain rfl := Option.some.inj hl'
      exact hl
    · rintro ⟨hb, hl⟩
      exact ⟨j, hb, rfl, hl l rfl⟩

theorem mem_closeWith {b : Branches} {tail : Option Look} {p : Piece}
    (hp : p ∈ (b.closeWith tail).pieces) : p ∈ b.pieces ∨ p.regex.height = 0 := by
  cases tail with
  | none => exact .inl hp
  | some l =>
    rcases List.mem_cons.mp hp with rfl | hp
    · exact .inr rfl
    · exact .inl hp

end Branches

/-! ## Alternatives between anchors -/

/-- One of the alternatives matches a part of a text; the first one only at the beginning, and the
last one only before a place where the condition holds. -/
def EndsAnchored (alternatives : List Regex) (tail : Option Look) (text : Text) (i j : Nat) :
    Prop :=
  ∃ k a, alternatives[k]? = some a ∧ a.Matches text i j ∧ (k = 0 → i = 0) ∧
    (k + 1 = alternatives.length → ∀ l ∈ tail, l.At text j)

theorem endsAnchored_singleton {a : Regex} {tail : Option Look} :
    EndsAnchored [a] tail text i j ↔ i = 0 ∧ a.Matches text i j ∧ ∀ l ∈ tail, l.At text j := by
  constructor
  · rintro ⟨k, a', hk, ha, hfirst, hlast⟩
    obtain ⟨rfl, rfl⟩ : k = 0 ∧ a' = a := by
      cases k with
      | zero => exact ⟨rfl, (Option.some.inj hk).symm⟩
      | succ k => cases hk
    exact ⟨hfirst rfl, ha, hlast rfl⟩
  · rintro ⟨hi, ha, htail⟩
    exact ⟨0, a, rfl, ha, fun _ => hi, fun _ => htail⟩

theorem endsAnchored_cons_append {a z : Regex} {inner : List Regex} {tail : Option Look} :
    EndsAnchored (a :: (inner ++ [z])) tail text i j ↔
      (i = 0 ∧ a.Matches text i j) ∨ (∃ x ∈ inner, x.Matches text i j) ∨
        (z.Matches text i j ∧ ∀ l ∈ tail, l.At text j) := by
  constructor
  · rintro ⟨k, x, hk, hx, hfirst, hlast⟩
    cases k with
    | zero =>
      obtain rfl := Option.some.inj hk
      exact .inl ⟨hfirst rfl, hx⟩
    | succ k =>
      rw [List.getElem?_cons_succ] at hk
      rcases Nat.lt_or_ge k inner.length with hlt | hge
      · rw [List.getElem?_append_left hlt] at hk
        exact .inr (.inl ⟨x, List.mem_of_getElem? hk, hx⟩)
      · rw [List.getElem?_append_right hge] at hk
        obtain ⟨hindex, rfl⟩ := List.getElem?_eq_some_iff.mp hk
        rw [List.length_singleton] at hindex
        simp only [List.getElem_singleton] at hx
        exact .inr (.inr ⟨hx, hlast (by simp; omega)⟩)
  · rintro (⟨hi, ha⟩ | ⟨x, hmem, hx⟩ | ⟨hz, htail⟩)
    · exact ⟨0, a, rfl, ha, fun _ => hi, by simp⟩
    · obtain ⟨k, hk⟩ := List.mem_iff_getElem?.mp hmem
      have hlt : k < inner.length := (List.getElem?_eq_some_iff.mp hk).1
      refine ⟨k + 1, x, ?_, hx, nofun, fun hlast => ?_⟩
      · rw [List.getElem?_cons_succ, List.getElem?_append_left hlt, hk]
      · simp only [List.length_cons, List.length_append] at hlast
        omega
    · exact ⟨inner.length + 1, z, by simp, hz, nofun, fun _ => htail⟩

/-- An alternative that matches a whole text does so between the anchors. -/
theorem endsAnchored_whole {alternatives : List Regex} {tail : Option Look} {a : Regex}
    (mem : a ∈ alternatives) (whole : a.Matches text 0 text.length)
    (holds : ∀ l ∈ tail, l.At text text.length) :
    EndsAnchored alternatives tail text 0 text.length := by
  obtain ⟨k, hk⟩ := List.mem_iff_getElem?.mp mem
  exact ⟨k, a, hk, whole, fun _ => rfl, fun _ => holds⟩

/-! ## The beginning of a pattern -/

structure Anchored (d d' : Nested Regex) : Prop where
  matches_iff : ∀ text i j, d'.value.Matches text i j ↔ i = 0 ∧ d.value.Matches text i j
  height_le : d'.height ≤ d.height + 1

inductive Led : Branches → Branches → Prop
  | first (ps : List Piece) : Led ⟨[], ps⟩ ⟨[], ps ++ [caret]⟩
  | later {d d' : Nested Regex} (anchored : Anchored d d') (done : List (Nested Regex))
      (ps : List Piece) : Led ⟨done ++ [d], ps⟩ ⟨done ++ [d'], ps⟩

theorem anchored_sequence (ps : List Piece) :
    Anchored (Branches.sequence ⟨[], ps⟩) (Branches.sequence ⟨[], ps ++ [caret]⟩) := by
  constructor
  · intro text i j
    simp only [Branches.matches_sequence, List.reverse_append, List.reverse_singleton,
      matches_sequenceOf_append, matches_sequenceOf_singleton]
    simp only [caret, Regex.Matches, Look.at_textStart_iff]
    constructor
    · rintro ⟨_, ⟨rfl, hi⟩, hps⟩
      exact ⟨hi, hps⟩
    · rintro ⟨hi, hps⟩
      exact ⟨i, ⟨rfl, hi⟩, hps⟩
  · refine Branches.sequence_height_le fun p hp => ?_
    rcases List.mem_append.mp hp with hp | hp
    · exact Branches.height_le_sequence (b := ⟨[], ps⟩) hp
    · obtain rfl := List.mem_singleton.mp hp
      exact Nat.zero_le _

namespace Led

variable {b b' : Branches}

theorem addPiece (h : Led b b') (p : Piece) :
    Led ⟨b.done, p :: b.pieces⟩ ⟨b'.done, p :: b'.pieces⟩ := by
  cases h with
  | first ps => exact .first (p :: ps)
  | later anchored done ps => exact .later anchored done (p :: ps)

theorem alternative (h : Led b b') : Led b.alternative b'.alternative := by
  cases h with
  | first ps => exact .later (anchored_sequence ps) [] []
  | later anchored done ps => exact .later anchored (_ :: done) []

theorem repeatLast? (h : Led b b') {least : Nat} {most : Option Nat} {b₁ : Branches}
    (hb : b.repeatLast? least most = some b₁) :
    ∃ b₁', b'.repeatLast? least most = some b₁' ∧ Led b₁ b₁' := by
  rw [Branches.repeatLast?] at hb
  split at hb
  · rename_i r rest hpieces
    obtain rfl := Option.some.inj hb
    cases h with
    | first ps =>
      obtain rfl : ps = ⟨r, false⟩ :: rest := hpieces
      exact ⟨_, rfl, .first (_ :: rest)⟩
    | later anchored done ps =>
      obtain rfl : ps = ⟨r, false⟩ :: rest := hpieces
      exact ⟨_, rfl, .later anchored done (_ :: rest)⟩
  · cases hb

theorem sequence_height_le (h : Led b b') (tail : Option Look) :
    (b'.closeWith tail).sequence.height ≤ b.sequence.height + 1 := by
  refine Branches.sequence_height_le fun p hp => ?_
  have hmem : p ∈ b.pieces ∨ p.regex.height = 0 := by
    rcases Branches.mem_closeWith hp with hp | hp
    · cases h with
      | first ps =>
        rcases List.mem_append.mp hp with hp | hp
        · exact .inl hp
        · obtain rfl := List.mem_singleton.mp hp
          exact .inr rfl
      | later => exact .inl hp
    · exact .inr hp
  rcases hmem with hp | hp
  · exact Branches.height_le_sequence hp
  · exact hp ▸ Nat.zero_le _

theorem finish_height_le (h : Led b b') (tail : Option Look) :
    (b'.closeWith tail).finish.height ≤ b.finish.height + 1 := by
  have hseq := h.sequence_height_le tail
  have hdone' := b'.closeWith_done tail
  cases h with
  | first ps =>
    generalize Branches.closeWith ⟨[], ps ++ [caret]⟩ tail = b'' at hseq hdone' ⊢
    obtain ⟨done', ps'⟩ := b''
    obtain rfl : done' = [] := hdone'
    exact hseq
  | @later d d' anchored done ps =>
    have hdone : (Branches.mk (done ++ [d]) ps).done ≠ [] := by simp
    obtain ⟨hsequence, hheights⟩ := (Branches.finish_height_le_iff hdone).mp (Nat.le_refl _)
    refine (Branches.finish_height_le_iff (by rw [hdone']; simp)).mpr ⟨by omega, ?_⟩
    rw [hdone']
    intro r hr
    rcases List.mem_append.mp hr with hr | hr
    · exact Nat.lt_succ_of_lt (hheights r (List.mem_append_left _ hr))
    · obtain rfl := List.mem_singleton.mp hr
      have hd := hheights d (by simp)
      have hd' := anchored.height_le
      omega

theorem matches_finish (h : Led b b') (tail : Option Look) :
    (b'.closeWith tail).finish.value.Matches text i j ↔
      EndsAnchored b.alternatives tail text i j := by
  rw [Branches.matches_finish]
  cases h with
  | first ps =>
    have hleft : Branches.alternatives ⟨[], ps⟩ = [(Branches.sequence ⟨[], ps⟩).value] := rfl
    rw [hleft, endsAnchored_singleton]
    simp [Branches.alternatives, Branches.closeWith_done, Branches.matches_closeWith,
      (anchored_sequence ps).matches_iff, and_assoc]
  | @later d d' anchored done ps =>
    have hleft : Branches.alternatives ⟨done ++ [d], ps⟩ =
        d.value :: (done.reverse.map (·.value) ++
          [(Branches.sequence ⟨done ++ [d], ps⟩).value]) := by
      simp [Branches.alternatives]
    have hsequence : (Branches.sequence ⟨done ++ [d], ps⟩) =
        (Branches.sequence ⟨done ++ [d'], ps⟩) := rfl
    rw [hleft, endsAnchored_cons_append, hsequence]
    simp [Branches.alternatives, Branches.closeWith_done, Branches.matches_closeWith,
      anchored.matches_iff]

end Led

/-! ## Reading side by side -/

/-- The groups that are open and the branches in hand, with the anchor at the bottom. -/
inductive Lead : List Frame → Branches → List Frame → Branches → Prop
  | outer {b b' : Branches} (h : Led b b') : Lead [] b [] b'
  | inner {frames frames' : List Frame} {before before' : Branches} (flags : Flags) (b : Branches)
      (h : Lead frames before frames' before') :
      Lead (⟨before, flags⟩ :: frames) b (⟨before', flags⟩ :: frames') b

/-- A reading of a text and of the text between the anchors. -/
structure Ahead (r r' : Reading) : Prop where
  lead : Lead r.frames r.branches r'.frames r'.branches
  scan : Followed r.scan r'.scan

namespace Lead

variable {frames frames' : List Frame} {b b' : Branches}

theorem addPiece (h : Lead frames b frames' b') (p : Piece) :
    Lead frames ⟨b.done, p :: b.pieces⟩ frames' ⟨b'.done, p :: b'.pieces⟩ := by
  cases h with
  | outer led => exact .outer (led.addPiece p)
  | inner flags b h => exact .inner flags _ h

theorem alternative (h : Lead frames b frames' b') :
    Lead frames b.alternative frames' b'.alternative := by
  cases h with
  | outer led => exact .outer led.alternative
  | inner flags b h => exact .inner flags _ h

theorem repeatLast? (h : Lead frames b frames' b') {least : Nat} {most : Option Nat} {b₁ : Branches}
    (hb : b.repeatLast? least most = some b₁) :
    ∃ b₁', b'.repeatLast? least most = some b₁' ∧ Lead frames b₁ frames' b₁' := by
  cases h with
  | outer led =>
    obtain ⟨b₁', hb₁', led'⟩ := led.repeatLast? hb
    exact ⟨b₁', hb₁', .outer led'⟩
  | inner flags b h => exact ⟨b₁, hb, .inner flags _ h⟩

end Lead

namespace Ahead

variable {r r' r₁ : Reading}

theorem next? (h : Ahead r r') (step : r.next? = some r₁) :
    ∃ r₁', r'.next? = some r₁' ∧ Ahead r₁ r₁' := by
  obtain ⟨⟨token, s⟩, hread, htake⟩ := Option.bind_eq_some_iff.mp step
  obtain ⟨t, hread', followed, hclosing⟩ := readToken_local h.scan hread
  rw [Reading.next?_of_token hread']
  have lead := h.lead
  cases token with
  | piece p =>
    obtain rfl := Option.some.inj htake
    exact ⟨_, rfl, lead.addPiece _, followed⟩
  | flags =>
    obtain rfl := Option.some.inj htake
    exact ⟨_, rfl, lead.addPiece _, followed⟩
  | alternative =>
    obtain rfl := Option.some.inj htake
    exact ⟨_, rfl, lead.alternative, followed⟩
  | repetition least most =>
    obtain ⟨b, hb, rfl⟩ := Option.map_eq_some_iff.mp htake
    obtain ⟨b', hb', lead'⟩ := lead.repeatLast? hb
    exact ⟨_, Option.map_eq_some_iff.mpr ⟨b', hb', rfl⟩, lead', followed⟩
  | opening =>
    obtain rfl := Option.some.inj htake
    refine ⟨_, rfl, ?_, followed⟩
    rw [h.scan.flags_eq]
    exact .inner _ _ lead
  | closing =>
    obtain ⟨frames, b, scan⟩ := r
    obtain ⟨frames', b', scan'⟩ := r'
    cases lead with
    | outer => cases htake
    | inner flags b lead =>
      obtain rfl := Option.some.inj htake
      -- The flags of the group end here, so that the sign must not be hidden by them.
      obtain rfl := hclosing rfl
      exact ⟨_, rfl, lead.addPiece _, .shown { s with flags := flags }⟩

theorem reads {n : Nat} (h : Ahead r r') (reads : r.Reads n r₁) :
    ∃ r₁', r'.Reads n r₁' ∧ Ahead r₁ r₁' := by
  induction reads generalizing r' with
  | here r => exact ⟨r', .here r', h⟩
  | next first _ ih =>
    obtain ⟨r₂', hstep, h₂⟩ := h.next? first
    obtain ⟨r₁', hreads, h₁⟩ := ih h₂
    exact ⟨r₁', .next hstep hreads, h₁⟩

/-- At the end of the text the second anchor is left, unless a comment hides it. -/
theorem finish (h : Ahead r r') (atEnd : r.AtEnd) (closed : r.frames = []) :
    ∃ tail, (tail = some (endLook r.scan.flags) ∨ (tail = none ∧ r.scan.flags.verbose = true)) ∧
      ∃ n ≤ 1, ∃ last, r'.Reads n last ∧ last.AtEnd ∧ last.frames = [] ∧
        ∃ b', Led r.branches b' ∧ last.branches = b'.closeWith tail := by
  obtain ⟨frames, b, s⟩ := r
  obtain ⟨frames', b', t⟩ := r'
  obtain rfl : frames = [] := closed
  obtain ⟨lead, scan⟩ := h
  cases lead with
  | outer led =>
    have hend : (s.onto s.rest).rest = [] := atEnd
    have place := scan.onto_rest
    generalize ht : t.onto t.rest = t₁ at place
    -- In sight, the sign is one more token; in a comment, the text ends where the other one does.
    cases place with
    | hidden _ verbose =>
      have atEnd' : Reading.AtEnd ⟨[], b', t⟩ := (congrArg Scan.rest ht).trans hend
      exact ⟨none, .inr ⟨rfl, verbose⟩, 0, Nat.zero_le 1, _, .here _, atEnd', rfl, b', led, rfl⟩
    | shown =>
      have hrest : (t.onto t.rest).rest = ['$'] := by rw [ht, Scan.move_rest, hend]; rfl
      have hflags : t.flags = s.flags := scan.flags_eq
      have hstep : Reading.next? ⟨[], b', t⟩ =
          some ⟨[], b'.closeWith (some (endLook s.flags)), (t.onto t.rest).move []⟩ := by
        rw [Reading.next?, readToken]
        simp only [hrest, tokenAt, Scan.onto_flags, hflags]
        rfl
      have atEnd' : Reading.AtEnd ⟨[], b'.closeWith (some (endLook s.flags)),
          (t.onto t.rest).move []⟩ := by
        rw [Reading.AtEnd, Scan.onto]
        split <;> rfl
      exact ⟨_, .inl rfl, 1, Nat.le_refl 1, _, .next hstep (.here _), atEnd', rfl, b', led, rfl⟩

end Ahead

namespace Glob

variable {glob : Text} {r : Regex}

theorem endLook_at_length (f : Flags) (text : Text) : (endLook f).At text text.length := by
  refine ⟨Nat.le_refl _, ?_⟩
  rw [List.getElem?_eq_none (Nat.le_refl _), endLook]
  split
  · split <;> rfl
  · rfl

theorem endsAnchored_textEnd_singleton {a : Regex} {text : Text} :
    (∃ i j, i ≤ text.length ∧ EndsAnchored [a] (some .textEnd) text i j) ↔
      a.Matches text 0 text.length := by
  simp only [endsAnchored_singleton]
  constructor
  · rintro ⟨_, _, -, rfl, hmatch, hend⟩
    rwa [Look.at_textEnd_iff.mp (hend _ rfl)] at hmatch
  · intro hmatch
    refine ⟨0, text.length, Nat.zero_le _, rfl, hmatch, fun l hl => ?_⟩
    obtain rfl := Option.some.inj hl
    exact Look.at_textEnd_iff.mpr rfl

theorem ahead_source (glob : Text) :
    ∃ r, (Reading.start (source glob)).Reads 1 r ∧ Ahead (.start (body glob)) r :=
  ⟨⟨[], ⟨[], [caret]⟩, ⟨body glob ++ ['$'], .initial, []⟩⟩, .next rfl (.here _),
    .outer (.first []), followed_move ⟨body glob, .initial, []⟩ (body glob)⟩

/-- The text between the anchors is read to its end, with no group left open. -/
structure Reached (glob : Text) (last : Reading) : Prop where
  reads : ∃ n ≤ (body glob).length, (Reading.start (body glob)).Reads n last
  atEnd : last.AtEnd
  closed : last.frames = []

theorem Reached.unique {last last' : Reading} (h : Reached glob last) (h' : Reached glob last') :
    last = last' := by
  obtain ⟨n, -, reads⟩ := h.reads
  obtain ⟨m, -, reads'⟩ := h'.reads
  exact reads.eq_of_atEnd reads' h.atEnd h'.atEnd

theorem exists_reached (valid : parse (body glob) = .ok r) :
    ∃ last, Reached glob last ∧ r = last.branches.finish.value := by
  rw [parse] at valid
  split at valid
  · cases valid
  · rename_i x hread
    obtain ⟨n, hn, last, reads, atEnd, closed, rfl⟩ :=
      (Reading.readPattern_eq_some_iff (r := .start (body glob))).mp hread
    split_ifs at valid with hdeep hlarge
    · obtain rfl := Except.ok.inj valid
      exact ⟨last, ⟨⟨n, Nat.le_of_lt_succ hn, reads⟩, atEnd, closed⟩, rfl⟩

theorem exists_compiled {last : Reading} (reached : Reached glob last) :
    ∃ tail, (tail = some (endLook last.scan.flags) ∨
        (tail = none ∧ last.scan.flags.verbose = true)) ∧
      ∃ x : Nested Regex, x.height ≤ last.branches.finish.height + 1 ∧
        (∀ text i j, x.value.Matches text i j ↔
          EndsAnchored last.branches.alternatives tail text i j) ∧
        compile glob = if nestingLimit < x.height then .error .malformed
          else if sizeLimit < x.value.footprint then .error .tooLarge else .ok x.value := by
  obtain ⟨n, hn, reads⟩ := reached.reads
  obtain ⟨start, hstart, ahead⟩ := ahead_source glob
  obtain ⟨r', reads', ahead'⟩ := ahead.reads reads
  obtain ⟨tail, htail, m, hm, last', hlast, atEnd', closed', b', led, hb'⟩ :=
    ahead'.finish reached.atEnd reached.closed
  have hsource : (Reading.start (source glob)).Reads (1 + (n + m)) last' :=
    hstart.append (reads'.append hlast)
  have hread : readPattern ((source glob).length + 1) [] .start ⟨source glob, .initial, []⟩ =
      some last'.branches.finish := by
    refine (Reading.readPattern_eq_some_iff (r := .start (source glob))).mpr
      ⟨_, ?_, last', hsource, atEnd', closed', rfl⟩
    simp only [source_eq, List.length_cons, List.length_append, List.length_nil]
    omega
  refine ⟨tail, htail, last'.branches.finish, ?_, ?_, ?_⟩
  · rw [hb']
    exact led.finish_height_le tail
  · intro text i j
    rw [hb']
    exact led.matches_finish tail
  · rw [compile, parse, hread]

/-- Every glob whose text is an expression matches the names that the expression matches as a whole.
It matches others where the text has several alternatives, or ends in a comment or under a flag that
lets an anchor hold at the end of a line. -/
theorem isMatch_iff_endsAnchored {glob : Text} {r : Regex} (valid : parse (body glob) = .ok r) :
    ∃ last, Reached glob last ∧
      (∀ text i j, r.Matches text i j ↔ ∃ a ∈ last.branches.alternatives, a.Matches text i j) ∧
      (last.branches.finish.height < nestingLimit → compile glob ≠ .error .tooLarge →
        ∃ r', compile glob = .ok r') ∧
      ∀ r', compile glob = .ok r' →
        (∃ tail, (tail = some (endLook last.scan.flags) ∨
            (tail = none ∧ last.scan.flags.verbose = true)) ∧
          ∀ name, r'.isMatch name = true ↔ ∃ i j, i ≤ name.length ∧
            EndsAnchored last.branches.alternatives tail name i j) ∧
        (∀ name, r.Matches name 0 name.length → r'.isMatch name = true) ∧
        (last.branches.done = [] → last.scan.flags.verbose = false →
          last.scan.flags.multiLine = false →
          ∀ name, r'.isMatch name = true ↔ r.Matches name 0 name.length) := by
  obtain ⟨last, reached, rfl⟩ := exists_reached valid
  obtain ⟨tail, htail, x, hheight, hmatches, hcompile⟩ := exists_compiled reached
  have halternatives : ∀ text i j, last.branches.finish.value.Matches text i j ↔
      ∃ a ∈ last.branches.alternatives, a.Matches text i j := fun _ _ _ => Branches.matches_finish
  refine ⟨last, reached, halternatives, ?_, ?_⟩
  · intro shallow fits
    rw [hcompile, if_neg (by omega)] at fits ⊢
    by_cases hlarge : sizeLimit < x.value.footprint
    · rw [if_pos hlarge] at fits
      exact absurd rfl fits
    · exact ⟨_, if_neg hlarge⟩
  · intro r' hr'
    obtain rfl : x.value = r' := by
      rw [hcompile] at hr'
      split_ifs at hr'
      exact Except.ok.inj hr'
    have hisMatch : ∀ name, x.value.isMatch name = true ↔ ∃ i j, i ≤ name.length ∧
        EndsAnchored last.branches.alternatives tail name i j := by
      intro name
      simp only [Regex.isMatch_iff, hmatches]
    refine ⟨⟨tail, htail, hisMatch⟩, ?_, ?_⟩
    · intro name whole
      obtain ⟨a, ha, hwhole⟩ := (halternatives _ _ _).mp whole
      have holds : ∀ l ∈ tail, l.At name name.length := by
        intro l hl
        rcases htail with rfl | ⟨rfl, -⟩
        · obtain rfl := Option.some.inj hl
          exact endLook_at_length _ name
        · cases hl
      exact (hisMatch name).mpr ⟨0, name.length, Nat.zero_le _, endsAnchored_whole ha hwhole holds⟩
    · intro single hverbose hmultiLine name
      have hlook : tail = some .textEnd := by
        rcases htail with rfl | ⟨-, verbose⟩
        · rw [endLook, hmultiLine]
          rfl
        · rw [hverbose] at verbose
          cases verbose
      have hfinish : last.branches.finish = last.branches.sequence := by
        rw [Branches.finish, single]
      have hlist : last.branches.alternatives = [last.branches.sequence.value] := by
        rw [Branches.alternatives, single]
        rfl
      rw [hisMatch, hlook, hfinish, hlist]
      exact endsAnchored_textEnd_singleton

/-- One alternative without flags: the whole name is matched. -/
theorem isMatch_iff_endsAnchored_oneAlternative :
    ∃ r r', parse (body "[ab]*".toList) = .ok r ∧ compile "[ab]*".toList = .ok r' ∧
      (∀ name, r'.isMatch name = true ↔ r.Matches name 0 name.length) ∧
      r'.isMatch "b.sql".toList = true ∧ r'.isMatch "xb".toList = false := by
  obtain ⟨r, valid⟩ : ∃ r, parse (body "[ab]*".toList) = .ok r := ⟨_, rfl⟩
  obtain ⟨r', hcompile⟩ : ∃ r', compile "[ab]*".toList = .ok r' := ⟨_, rfl⟩
  have matched : (compile "[ab]*".toList).map (fun r => (r.isMatch "b.sql".toList,
      r.isMatch "xb".toList)) = .ok (true, false) := rfl
  rw [hcompile] at matched
  obtain ⟨hfull, hpart⟩ := Prod.mk.inj (Except.ok.inj matched)
  obtain ⟨last, reached, -, -, hcompiled⟩ := isMatch_iff_endsAnchored valid
  have reads : (Reading.start (body "[ab]*".toList)).Reads 3 _ :=
    .next rfl (.next rfl (.next rfl (.here _)))
  obtain rfl := reached.unique ⟨⟨3, by decide, reads⟩, rfl, rfl⟩
  exact ⟨r, r', valid, hcompile, (hcompiled r' hcompile).2.2 rfl rfl rfl, hfull, hpart⟩

/-- The glob of two letters matches a name that neither of them is. -/
theorem exists_isMatch_not_whole :
    ∃ r r', parse (body "a|b".toList) = .ok r ∧ compile "a|b".toList = .ok r' ∧
      r'.isMatch "ax".toList = true ∧ ¬ r.Matches "ax".toList 0 "ax".toList.length := by
  refine ⟨_, _, rfl, rfl, by decide, fun whole => ?_⟩
  have reached := (Regex.moves_ends _ 1 2).mpr ⟨0, by decide, whole⟩
  revert reached
  decide

end Glob

end Runbook.Pattern
