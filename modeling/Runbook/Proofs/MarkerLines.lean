import Runbook.Directive.Options
import Runbook.Proofs.JsonMembers
import Runbook.Proofs.Texts

/-! # Marker lines

A content is cut at its line feeds. The marker lines that it begins with become its options, a later
one in place of an earlier one of the same name, and the lines after them stay as they are. The
first of them that cannot be read is the error.
-/
namespace Runbook

namespace Text

theorem not_mem_of_mem_splitOn {t l : Text} {c : Char} (h : l ∈ t.splitOn c) : c ∉ l := by
  induction t generalizing l with
  | nil =>
    rw [List.splitOn_nil, List.mem_singleton] at h
    rw [h]
    exact List.not_mem_nil
  | cons d t ih =>
    rw [List.splitOn_cons_eq_if_modifyHead] at h
    split at h
    · rcases List.mem_cons.mp h with rfl | h
      · exact List.not_mem_nil
      · exact ih h
    · rename_i hd
      cases hs : t.splitOn c with
      | nil => exact absurd hs (List.splitOn_ne_nil c t)
      | cons first rest =>
        rw [hs] at h ih
        rcases List.mem_cons.mp h with rfl | h
        · rw [List.mem_cons, not_or]
          exact ⟨fun hc => hd (beq_iff_eq.mpr hc.symm), ih List.mem_cons_self⟩
        · exact ih (List.mem_cons_of_mem _ h)

theorem length_splitOn_le (t : Text) (c : Char) : (t.splitOn c).length ≤ t.length + 1 := by
  induction t with
  | nil => exact Nat.le_refl 1
  | cons d t ih =>
    rw [List.splitOn_cons_eq_if_modifyHead]
    split
    · exact Nat.succ_le_succ ih
    · rw [List.length_modifyHead]
      exact Nat.le_succ_of_le ih

/-- What follows some of the lines ends the text. -/
theorem intercalate_suffix (first rest : List Text) (c : Char) :
    [c].intercalate rest <:+ [c].intercalate (first ++ rest) := by
  induction first with
  | nil => exact List.suffix_rfl
  | cons line first ih =>
    refine ih.trans ?_
    rw [List.cons_append]
    cases first ++ rest with
    | nil => exact List.nil_suffix
    | cons next more =>
      rw [List.intercalate_cons_cons]
      exact List.suffix_append _ _

end Text

namespace Options

open Json (Members Ordered)

def IsMarker (line : Text) : Prop := ∃ rest, Text.trim line = '!' :: rest

/-- The lines of a content are the marker lines that it begins with, and the others from the first
one on that is none. -/
structure Block (content : Text) (marked others : List Text) : Prop where
  lines : content.splitOn '\n' = marked ++ others
  markers : ∀ line ∈ marked, IsMarker line
  ends : ∀ line ∈ others.head?, ¬ IsMarker line

inductive Marks (line : Text) : Text × Json → Prop
  | marker {before raw : Text} {v : Json} (text : Text.trim line = '!' :: (before ++ ':' :: raw))
      (first : ':' ∉ before) (named : Text.trim before ≠ [])
      (value : Json.parse (Text.trim raw) = .ok v) : Marks line (Text.trim before, v)

/-- A marker line that cannot be read: it has no colon, or no name before the first colon, or no
JSON text after it. -/
inductive Faulty (line : Text) : Error → Prop
  | unseparated {rest : Text} (text : Text.trim line = '!' :: rest) (none : ':' ∉ rest) :
      Faulty line (.malformed (Text.trim line))
  | nameless {before raw : Text} (text : Text.trim line = '!' :: (before ++ ':' :: raw))
      (first : ':' ∉ before) (blank : Text.isBlankText before = true) :
      Faulty line (.malformed (Text.trim line))
  | noJson {before raw : Text} {cause : Json.ReadError}
      (text : Text.trim line = '!' :: (before ++ ':' :: raw)) (first : ':' ∉ before)
      (named : ¬ Text.isBlankText before = true)
      (error : Json.parse (Text.trim raw) = .error cause) :
      Faulty line (.invalidJson (Text.trim before) cause)

/-- What a content gives: nothing is taken off, or every marker line of its block is read and the
lines after them are left, or the first marker line that cannot be read is reported. -/
inductive Extracts (content : Text) : Except Error (Option Members × Text) → Prop
  | plain {others : List Text} (block : Block content [] others) :
      Extracts content (.ok (none, content))
  | options {marked others : List Text} {pairs : List (Text × Json)} {options : Members}
      (block : Block content marked others) (present : marked ≠ [])
      (marks : List.Forall₂ Marks marked pairs) (ordered : Ordered options)
      (values : ∀ name, options.get? name = pairs.reverse.lookup name) :
      Extracts content (.ok (some options, ['\n'].intercalate others))
  | faulty {before after others : List Text} {line : Text} {pairs : List (Text × Json)} {e : Error}
      (block : Block content (before ++ line :: after) others)
      (marks : List.Forall₂ Marks before pairs) (faulty : Faulty line e) :
      Extracts content (.error e)

variable {content line : Text} {marked others : List Text} {pairs : List (Text × Json)}
  {options : Members} {e : Error}

theorem marker?_eq_some_iff {rest : Text} :
    marker? line = some rest ↔ Text.trim line = '!' :: rest := Text.after?_eq_some_iff

theorem marker?_eq_none (h : ¬ IsMarker line) : marker? line = none := by
  cases hm : marker? line with
  | none => rfl
  | some rest => exact absurd ⟨rest, marker?_eq_some_iff.mp hm⟩ h

theorem isMarker_iff_isSome : IsMarker line ↔ (marker? line).isSome = true := by
  rw [Option.isSome_iff_exists]
  exact exists_congr fun rest => marker?_eq_some_iff.symm

/-! ## One line -/

theorem Marks.parseMarker_eq {p : Text × Json} (h : Marks line p) :
    ∃ marker, marker? line = some marker ∧ parseMarker line marker = .ok p := by
  cases h with
  | @marker before raw v text first named value =>
    refine ⟨_, marker?_eq_some_iff.mpr text, ?_⟩
    simp only [parseMarker, Text.splitOnce?_of_not_mem first, if_neg named, value]

theorem Faulty.parseMarker_eq (h : Faulty line e) :
    ∃ marker, marker? line = some marker ∧ parseMarker line marker = .error e := by
  cases h with
  | unseparated text none =>
    refine ⟨_, marker?_eq_some_iff.mpr text, ?_⟩
    simp only [parseMarker, Text.splitOnce?_eq_none_of_not_mem none]
  | nameless text first blank =>
    refine ⟨_, marker?_eq_some_iff.mpr text, ?_⟩
    simp only [parseMarker, Text.splitOnce?_of_not_mem first,
      if_pos (Text.trim_eq_nil_iff.mpr blank)]
  | noJson text first named error =>
    refine ⟨_, marker?_eq_some_iff.mpr text, ?_⟩
    simp only [parseMarker, Text.splitOnce?_of_not_mem first,
      if_neg (Text.trim_eq_nil_iff.not.mpr named), error]

/-- Every marker line can be read or has a fault. -/
theorem IsMarker.marks_or_faulty (h : IsMarker line) :
    (∃ p, Marks line p) ∨ ∃ e, Faulty line e := by
  obtain ⟨rest, text⟩ := h
  by_cases hcolon : ':' ∈ rest
  · obtain ⟨before, raw, rfl, first⟩ := List.eq_append_cons_of_mem hcolon
    by_cases hblank : Text.isBlankText before = true
    · exact .inr ⟨_, .nameless text first hblank⟩
    · cases hvalue : Json.parse (Text.trim raw) with
      | ok v => exact .inl ⟨_, .marker text first (Text.trim_eq_nil_iff.not.mpr hblank) hvalue⟩
      | error cause => exact .inr ⟨_, .noJson text first hblank hvalue⟩
  · exact .inr ⟨_, .unseparated text hcolon⟩

theorem marks_or_first_faulty (h : ∀ line ∈ marked, IsMarker line) :
    (∃ pairs, List.Forall₂ Marks marked pairs) ∨
      ∃ before line after pairs e, marked = before ++ line :: after ∧
        List.Forall₂ Marks before pairs ∧ Faulty line e := by
  induction marked with
  | nil => exact .inl ⟨[], .nil⟩
  | cons line marked ih =>
    obtain ⟨first, rest⟩ := List.forall_mem_cons.mp h
    rcases first.marks_or_faulty with ⟨p, hp⟩ | ⟨e, he⟩
    · rcases ih rest with ⟨pairs, hpairs⟩ | ⟨before, bad, after, pairs, e, rfl, hpairs, he⟩
      · exact .inl ⟨p :: pairs, .cons hp hpairs⟩
      · exact .inr ⟨line :: before, bad, after, p :: pairs, e, rfl, .cons hp hpairs, he⟩
    · exact .inr ⟨[], line, marked, [], e, rfl, .nil, he⟩

/-! ## One line after the other -/

theorem cutLine_intercalate (noFeed : '\n' ∉ line) (lines : List Text) :
    cutLine (['\n'].intercalate (line :: lines)) = (line, ['\n'].intercalate lines) := by
  cases lines with
  | nil =>
    rw [List.intercalate_singleton, cutLine, Text.splitOnce?_eq_none_of_not_mem noFeed]
    rfl
  | cons next lines =>
    rw [List.intercalate_cons_cons, List.append_assoc, cutLine]
    have hcut := Text.splitOnce?_of_not_mem noFeed (['\n'].intercalate (next :: lines))
    rw [List.singleton_append, hcut]
    rfl

/-- The block is over where the text or its marker lines are. -/
theorem extractFrom_of_ends (noFeed : ∀ l ∈ others, '\n' ∉ l)
    (ends : ∀ l ∈ others.head?, ¬ IsMarker l) (fuel : Nat) (options : Members) :
    extractFrom fuel options (['\n'].intercalate others) =
      .ok (options, ['\n'].intercalate others) := by
  cases fuel with
  | zero => rfl
  | succ fuel =>
    cases others with
    | nil => rfl
    | cons line others =>
      have hline : marker? line = none := marker?_eq_none (ends line rfl)
      simp only [extractFrom, cutLine_intercalate (noFeed line List.mem_cons_self), hline]

/-- One marker line is read, whatever follows it. -/
theorem extractFrom_marks {p : Text × Json} {lines : List Text} (noFeed : '\n' ∉ line)
    (marks : Marks line p) (fuel : Nat) (options : Members) :
    extractFrom (fuel + 1) options (['\n'].intercalate (line :: lines)) =
      extractFrom fuel (options.insert p.1 p.2) (['\n'].intercalate lines) := by
  obtain ⟨marker, hmarker, hparse⟩ := marks.parseMarker_eq
  simp only [extractFrom, cutLine_intercalate noFeed, hmarker, hparse]
  split
  · rename_i hnil
    have hnone : extractFrom fuel (options.insert p.1 p.2) (['\n'].intercalate []) =
        .ok (options.insert p.1 p.2, ['\n'].intercalate []) :=
      extractFrom_of_ends (List.forall_mem_nil _) (by simp) fuel _
    rw [hnil]
    exact hnone.symm
  · rfl

theorem extractFrom_faulty {lines : List Text} (noFeed : '\n' ∉ line) (faulty : Faulty line e)
    (fuel : Nat) (options : Members) :
    extractFrom (fuel + 1) options (['\n'].intercalate (line :: lines)) = .error e := by
  obtain ⟨marker, hmarker, hparse⟩ := faulty.parseMarker_eq
  simp only [extractFrom, cutLine_intercalate noFeed, hmarker, hparse]

/-- Marker lines that can be read are taken off one after the other. -/
theorem extractFrom_of_marks (marks : List.Forall₂ Marks marked pairs)
    (noFeed : ∀ l ∈ marked, '\n' ∉ l) (others : List Text) (fuel : Nat) (options : Members) :
    extractFrom (fuel + marked.length) options (['\n'].intercalate (marked ++ others)) =
      extractFrom fuel (options.insertAll pairs) (['\n'].intercalate others) := by
  induction marks generalizing options with
  | nil => rfl
  | @cons line p marked pairs first _ ih =>
    obtain ⟨hline, hmarked⟩ := List.forall_mem_cons.mp noFeed
    rw [List.length_cons, ← Nat.add_assoc, List.cons_append, extractFrom_marks hline first,
      ih hmarked]
    rfl

/-! ## The whole content -/

namespace Block

variable (block : Block content marked others)

include block

theorem content_eq : content = ['\n'].intercalate (marked ++ others) := by
  rw [← block.lines, List.intercalate_splitOn]

theorem noFeed : ∀ l ∈ marked ++ others, '\n' ∉ l := by
  rw [← block.lines]
  exact fun l hl => Text.not_mem_of_mem_splitOn hl

theorem length_le : marked.length ≤ content.length + 1 := by
  have h := Text.length_splitOn_le content '\n'
  rw [block.lines, List.length_append] at h
  omega

/-- The lines after the block have none of their own. -/
theorem extract_rest : extract (['\n'].intercalate others) =
    .ok (none, ['\n'].intercalate others) := by
  rw [extract, extractFrom_of_ends (fun l hl => block.noFeed l (List.mem_append_right _ hl))
    block.ends]

/-- The fuel is enough for all marker lines, and for one line more when any line is left. -/
theorem extractFrom_eq {before after : List Text} (split : marked = before ++ after)
    (marks : List.Forall₂ Marks before pairs) :
    ∃ fuel, after.length ≤ fuel ∧ extractFrom (content.length + 1) [] content =
      extractFrom fuel (Members.insertAll [] pairs) (['\n'].intercalate (after ++ others)) := by
  have hlength := block.length_le
  rw [split, List.length_append] at hlength
  refine ⟨content.length + 1 - before.length, by omega, ?_⟩
  have hnoFeed : ∀ l ∈ before, '\n' ∉ l := fun l hl =>
    block.noFeed l (List.mem_append_left _ (split ▸ List.mem_append_left _ hl))
  have h := extractFrom_of_marks marks hnoFeed (after ++ others)
    (content.length + 1 - before.length) []
  rw [Nat.sub_add_cancel (by omega), ← List.append_assoc, ← split, ← block.content_eq] at h
  exact h

end Block

theorem exists_block (content : Text) : ∃ marked others, Block content marked others := by
  refine ⟨(content.splitOn '\n').takeWhile fun l => (marker? l).isSome,
    (content.splitOn '\n').dropWhile fun l => (marker? l).isSome,
    List.takeWhile_append_dropWhile.symm, ?_, ?_⟩
  · intro line hline
    exact isMarker_iff_isSome.mpr (List.mem_takeWhile_imp (p := fun l => (marker? l).isSome) hline)
  · intro line hline hmarker
    have hnot := List.head?_dropWhile_not (fun l => (marker? l).isSome) (content.splitOn '\n')
    rw [Option.mem_def.mp hline] at hnot
    exact absurd (hnot.symm.trans (isMarker_iff_isSome.mp hmarker)) Bool.false_ne_true

theorem insertAll_ne_nil_of_marks (marks : List.Forall₂ Marks marked pairs)
    (present : marked ≠ []) : Members.insertAll [] pairs ≠ [] := by
  cases marks with
  | nil => exact absurd rfl present
  | cons _ _ => exact Members.insertAll_ne_nil (Members.insert_ne_nil _ _ _) _

theorem extract_of_extracts {r : Except Error (Option Members × Text)} (h : Extracts content r) :
    extract content = r := by
  cases h with
  | @plain others block =>
    have hrest := block.extract_rest
    rwa [← List.nil_append others, ← block.content_eq] at hrest
  | @options marked others pairs options block present marks ordered values =>
    obtain ⟨fuel, -, hfrom⟩ := block.extractFrom_eq (List.append_nil marked).symm marks
    rw [List.nil_append, extractFrom_of_ends
      (fun l hl => block.noFeed l (List.mem_append_right _ hl)) block.ends] at hfrom
    have hoptions : Members.insertAll [] pairs = options := by
      refine Members.ext_get? (Members.ordered_insertAll List.Pairwise.nil pairs) ordered ?_
      intro name
      rw [Members.get?_insertAll, values name]
      exact Option.or_none
    have hsome := insertAll_ne_nil_of_marks marks present
    rw [hoptions] at hfrom hsome
    rw [extract, hfrom]
    cases options with
    | nil => exact absurd rfl hsome
    | cons p options => rfl
  | @faulty before after others line pairs e block marks faulty =>
    obtain ⟨fuel, hfuel, hfrom⟩ := block.extractFrom_eq rfl marks
    obtain ⟨fuel, rfl⟩ := Nat.exists_eq_add_one_of_ne_zero (n := fuel) (by
      rintro rfl
      exact absurd hfuel (Nat.not_succ_le_zero _))
    have hline : '\n' ∉ line := block.noFeed line (by simp)
    rw [List.cons_append, extractFrom_faulty hline faulty] at hfrom
    rw [extract, hfrom]

theorem exists_extracts (content : Text) : ∃ r, Extracts content r := by
  obtain ⟨marked, others, block⟩ := exists_block content
  rcases marks_or_first_faulty block.markers with
    ⟨pairs, marks⟩ | ⟨before, line, after, pairs, e, rfl, marks, faulty⟩
  · cases marks with
    | nil => exact ⟨_, .plain block⟩
    | @cons line p marked pairs first rest =>
      have ordered : Ordered (Members.insertAll [] (p :: pairs)) :=
        Members.ordered_insertAll List.Pairwise.nil _
      refine ⟨_, .options block (List.cons_ne_nil _ _) (.cons first rest) ordered fun name => ?_⟩
      rw [Members.get?_insertAll]
      exact Option.or_none
  · exact ⟨_, .faulty block marks faulty⟩

/-- A content gives what the rules for its marker lines say, and nothing else. What is left of it
ends the content, and gives nothing more when it is read again. -/
theorem extract_eq_iff_extracts (content : Text) :
    (∀ r, extract content = r ↔ Extracts content r) ∧
      ∀ options body, extract content = .ok (options, body) →
        body <:+ content ∧ extract body = .ok (none, body) := by
  have hiff : ∀ r, extract content = r ↔ Extracts content r := by
    intro r
    constructor
    · intro h
      obtain ⟨r', hr'⟩ := exists_extracts content
      rw [← h, extract_of_extracts hr']
      exact hr'
    · exact extract_of_extracts
  refine ⟨hiff, ?_⟩
  intro options body h
  cases (hiff _).mp h with
  | plain block => exact ⟨List.suffix_rfl, h⟩
  | @options marked others pairs options block present marks ordered values =>
    refine ⟨?_, block.extract_rest⟩
    have hsuffix := Text.intercalate_suffix marked others '\n'
    rwa [← block.content_eq] at hsuffix

/-- Of two markers with one name the later counts, and a marker after another line is none. -/
theorem extract_eq_iff_extracts_repeatedName :
    let content := "!b:1\r\n !b: null\n\n!c".toList
    let body := "\n!c".toList
    extract content = .ok (some [("b".toList, .null)], body) ∧ body <:+ content ∧
      extract body = .ok (none, body) := by
  intro content body
  have block : Block content ["!b:1\r".toList, " !b: null".toList] [[], "!c".toList] := by
    refine ⟨by decide, ?_, ?_⟩
    · intro line hline
      rcases List.mem_cons.mp hline with rfl | hline
      · exact ⟨"b:1".toList, by decide⟩
      · rw [List.mem_singleton.mp hline]
        exact ⟨"b: null".toList, by decide⟩
    · rintro line hline ⟨rest, hrest⟩
      obtain rfl := Option.some.inj hline
      cases hrest
  have firstText : Text.trim "!b:1\r".toList = '!' :: ("b".toList ++ ':' :: "1".toList) := by decide
  have secondText : Text.trim " !b: null".toList = '!' :: ("b".toList ++ ':' :: " null".toList) := by
    decide
  have first : Marks "!b:1\r".toList ("b".toList, .nat 1) :=
    .marker firstText (by decide) (by decide) rfl
  have second : Marks " !b: null".toList ("b".toList, .null) :=
    .marker secondText (by decide) (by decide) rfl
  have extracts := Extracts.options block (by simp) (.cons first (.cons second .nil))
    (Members.ordered_insertAll List.Pairwise.nil _) fun name => by
      rw [Members.get?_insertAll]
      exact Option.or_none
  obtain ⟨hiff, hrest⟩ := extract_eq_iff_extracts content
  have h : extract content = .ok (some [("b".toList, .null)], body) := (hiff _).mpr extracts
  exact ⟨h, hrest _ _ h⟩

end Options

end Runbook
