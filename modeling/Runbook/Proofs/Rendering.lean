import Runbook.Proofs.LineBreaks
import Runbook.Proofs.LineGrammar
import Runbook.RunFile

/-! # Written run files

A list of directives and references is written as a run file, one line for each, with the tags in
capitals or small letters and white space around them. Reading the file gives the list back, in its
order and numbered from one.
-/
namespace Runbook

namespace Text

structure Trimmed (t : Text) : Prop where
  first : ∀ c ∈ t.head?, isBlank c = false
  last : ∀ c ∈ t.getLast?, isBlank c = false

theorem dropWhile_blank_append {left t : Text} (blank : isBlankText left = true)
    (first : ∀ c ∈ t.head?, isBlank c = false) : (left ++ t).dropWhile isBlank = t := by
  have hleft : ∀ c ∈ left, isBlank c = true := List.all_eq_true.mp blank
  rw [List.dropWhile_append_of_pos hleft]
  cases t with
  | nil => rfl
  | cons c t =>
    have hc : isBlank c = false := first c rfl
    rw [List.dropWhile_cons_of_neg (by rw [hc]; exact Bool.false_ne_true)]

/-- The white space around a trimmed text is all that is taken off. -/
theorem trim_padded {left t right : Text} (hleft : isBlankText left = true) (trimmed : Trimmed t)
    (hright : isBlankText right = true) : trim (left ++ t ++ right) = t := by
  have hreverse : isBlankText right.reverse = true := by
    rw [isBlankText, List.all_reverse]
    exact hright
  have hlast : ∀ c ∈ t.reverse.head?, isBlank c = false := by
    rw [List.head?_reverse]
    exact trimmed.last
  cases t with
  | nil =>
    rw [List.append_nil, trim_eq_nil_iff, isBlankText, List.all_append, Bool.and_eq_true]
    exact ⟨hleft, hright⟩
  | cons c t =>
    have hfirst : ∀ d ∈ (c :: t ++ right).head?, isBlank d = false := trimmed.first
    rw [trim, trimLeft, List.append_assoc, dropWhile_blank_append hleft hfirst, trimRight,
      List.reverse_append, dropWhile_blank_append hreverse hlast, List.reverse_reverse]

theorem Trimmed.trim_eq {t : Text} (h : Trimmed t) : trim t = t := by
  have hpadded : trim ([] ++ t ++ []) = t := trim_padded rfl h rfl
  rwa [List.nil_append, List.append_nil] at hpadded

theorem Trimmed.not_isBlankText {t : Text} (h : Trimmed t) (hne : t ≠ []) :
    ¬ isBlankText t = true := by
  rw [← trim_eq_nil_iff, h.trim_eq]
  exact hne

theorem isBlank_of_mem_head?_dropWhile {t : Text} {c : Char}
    (h : c ∈ (t.dropWhile isBlank).head?) : isBlank c = false := by
  have hnot := List.head?_dropWhile_not isBlank t
  rwa [Option.mem_def.mp h] at hnot

theorem trimmed_trim (t : Text) : Trimmed (trim t) where
  first c hc := by
    -- Nothing is taken off on the right but what ends the text.
    obtain ⟨right, hright⟩ : trim t <+: trimLeft t := by
      have hsuffix := List.dropWhile_suffix (l := (trimLeft t).reverse) isBlank
      rwa [← List.reverse_prefix, List.reverse_reverse] at hsuffix
    apply isBlank_of_mem_head?_dropWhile (t := t)
    have hne : trim t ≠ [] := fun hnil => by simp [hnil] at hc
    change c ∈ (trimLeft t).head?
    rwa [← hright, List.head?_append_of_ne_nil _ hne]
  last c hc := by
    rw [trim, trimRight, List.getLast?_reverse] at hc
    exact isBlank_of_mem_head?_dropWhile hc

theorem toLower_of_isBlank {c : Char} (h : isBlank c = true) : c.toLower = c := by
  have hcapital : ¬ (65 ≤ c.toNat ∧ c.toNat ≤ 90) := by
    simp only [isBlank, Bool.or_eq_true, Bool.and_eq_true, decide_eq_true_eq, beq_iff_eq] at h
    omega
  rw [Char.toLower]
  exact dif_neg fun hc => hcapital ⟨hc.1, hc.2⟩

/-- Texts with the same letters have the same characters that are no letters. -/
theorem SameLetters.mem_lowerAscii {s t : Text} {c : Char} (h : SameLetters s t)
    (hc : c.toLower = c) (mem : c ∈ s) : c ∈ lowerAscii t := by
  rw [← h, lowerAscii, List.mem_map]
  exact ⟨c, mem, hc⟩

theorem append_ne_concat {s t : Text} {c : Char} (hs : ∀ u, s ≠ u ++ [c]) (ht : ∀ u, t ≠ u ++ [c])
    (u : Text) : s ++ t ≠ u ++ [c] := by
  intro hu
  rcases List.eq_nil_or_concat t with rfl | ⟨init, last, hlast⟩
  · rw [List.append_nil] at hu
    exact hs u hu
  · rw [List.concat_eq_append] at hlast
    rw [hlast, ← List.append_assoc] at hu
    obtain ⟨rfl, -⟩ := List.cons.inj (List.append_inj' hu rfl).2
    exact ht init hlast

/-- The lines of a text that are written one after the other, each ended by a line feed. -/
theorem lines_flatMap_feed {ls : List Text}
    (plain : ∀ l ∈ ls, '\n' ∉ l ∧ ∀ u, l ≠ u ++ ['\r']) :
    lines (ls.flatMap (· ++ ['\n'])) = ls := by
  induction ls with
  | nil => rfl
  | cons l ls ih =>
    obtain ⟨⟨noFeed, noReturn⟩, rest⟩ := List.forall_mem_cons.mp plain
    rw [List.flatMap_cons, List.append_assoc]
    have hfirst := lines_feed noFeed (ls.flatMap (· ++ ['\n']))
    rw [dropReturn_eq_self noReturn, ih rest] at hfirst
    exact hfirst

end Text

namespace RunFile

open Text (SameLetters Trimmed)

inductive Item where
  | literal (kind : Kind) (content : Text)
  | reference (kind : Kind) (subtype : Subtype) (path : Text)

structure IsMargin (t : Text) : Prop where
  blank : Text.isBlankText t = true
  noFeed : '\n' ∉ t

namespace Item

def tag : Item → Text
  | .literal kind _ => kind.tag
  | .reference kind subtype _ => Line.fileMark ++ kind.tag ++ '/' :: subtype.tag

def content : Item → Text
  | .literal _ content => content
  | .reference _ _ path => path

def line : Item → Line
  | .literal kind content => .literal (.literal kind content)
  | .reference kind subtype path => .reference ⟨kind, subtype, .ofText path⟩

/-- A content must fit on its line, so that it does not end in what would be taken for a part of the
line end. A path has no white space around it, and files of its kind can have the subtype. -/
inductive Writable : Item → Prop
  | literal {kind : Kind} {content : Text} (noFeed : '\n' ∉ content)
      (noReturn : ∀ u, content ≠ u ++ ['\r']) : Writable (.literal kind content)
  | reference {kind : Kind} {subtype : Subtype} {path : Text} (allowed : Line.Allowed kind subtype)
      (present : path ≠ []) (noFeed : '\n' ∉ path) (trimmed : Trimmed path) :
      Writable (.reference kind subtype path)

/-- A line that is written for an item. -/
inductive Writes (item : Item) : Text → Prop
  | line {left tag right : Text} (before : IsMargin left) (spelled : SameLetters tag item.tag)
      (after : IsMargin right) :
      Writes item (left ++ tag ++ right ++ Line.separator ++ item.content)

variable {item : Item} {left tag right line : Text}

theorem lowerAscii_tag_plain (item : Item) :
    ∀ c ∈ Text.lowerAscii item.tag, (c != ':' && c != '-' && !Text.isBlank c) = true := by
  rw [← List.all_eq_true]
  cases item with
  | literal kind content =>
    change List.all (Text.lowerAscii kind.tag) _ = true
    cases kind <;> decide
  | reference kind subtype path =>
    change List.all (Text.lowerAscii (Line.fileMark ++ kind.tag ++ '/' :: subtype.tag)) _ = true
    cases kind <;> cases subtype <;> decide

theorem not_isBlank_of_mem (spelled : SameLetters tag item.tag) {c : Char} (mem : c ∈ tag) :
    Text.isBlank c = false := by
  cases hc : Text.isBlank c with
  | false => rfl
  | true =>
    have hplain :=
      item.lowerAscii_tag_plain c (spelled.mem_lowerAscii (Text.toLower_of_isBlank hc) mem)
    simp [hc] at hplain

theorem tag_trimmed (spelled : SameLetters tag item.tag) : Trimmed tag where
  first _ hc := not_isBlank_of_mem spelled (List.mem_of_mem_head? hc)
  last _ hc := not_isBlank_of_mem spelled (List.mem_of_mem_getLast? hc)

/-- Neither a colon nor a hyphen stands before the separator. -/
theorem not_mem_before (before : IsMargin left) (spelled : SameLetters tag item.tag)
    (after : IsMargin right) : ':' ∉ left ++ tag ++ right ∧ '-' ∉ left ++ tag ++ right := by
  have hblank : ∀ {t : Text} {c : Char}, IsMargin t → Text.isBlank c = false → c ∉ t := by
    intro t c margin hc hmem
    exact absurd (hc.symm.trans (List.all_eq_true.mp margin.blank c hmem)) Bool.false_ne_true
  have hcolon : ':' ∉ tag := fun h =>
    absurd (item.lowerAscii_tag_plain _ (spelled.mem_lowerAscii (by decide) h)) (by decide)
  have hhyphen : '-' ∉ tag := fun h =>
    absurd (item.lowerAscii_tag_plain _ (spelled.mem_lowerAscii (by decide) h)) (by decide)
  simp only [List.mem_append, not_or]
  exact ⟨⟨⟨hblank before (by decide), hcolon⟩, hblank after (by decide)⟩,
    ⟨hblank before (by decide), hhyphen⟩, hblank after (by decide)⟩

theorem Writes.isComment_eq_false (h : item.Writes line) : isComment line = false := by
  cases h with
  | @line left tag right before spelled after =>
    cases hc : isComment (left ++ tag ++ right ++ Line.separator ++ item.content) with
    | false => rfl
    | true =>
      obtain ⟨rest, hrest⟩ := Option.isSome_iff_exists.mp hc
      have hline := Text.after?_eq_some_iff.mp hrest
      obtain ⟨-, hhyphen⟩ := not_mem_before before spelled after
      cases hbefore : left ++ tag ++ right with
      | nil =>
        rw [hbefore] at hline
        exact absurd (List.cons.inj hline).1 (by decide)
      | cons c t =>
        rw [hbefore] at hline hhyphen
        exact absurd (List.cons.inj hline).1.symm (List.ne_of_not_mem_cons hhyphen)

theorem Writable.fits (h : item.Writable) :
    '\n' ∉ item.content ∧ ∀ u, item.content ≠ u ++ ['\r'] := by
  cases h with
  | literal noFeed noReturn => exact ⟨noFeed, noReturn⟩
  | @reference kind subtype path allowed present noFeed trimmed =>
    refine ⟨noFeed, fun u hu => ?_⟩
    have hlast : '\r' ∈ path.getLast? := by
      rw [show path = u ++ ['\r'] from hu]
      simp
    exact absurd (trimmed.last _ hlast) (by decide)

theorem Writes.fits (h : item.Writes line) (writable : item.Writable) :
    '\n' ∉ line ∧ ∀ u, line ≠ u ++ ['\r'] := by
  obtain ⟨noFeed, noReturn⟩ := writable.fits
  cases h with
  | @line left tag right before spelled after =>
    have htag : '\n' ∉ tag := fun hmem => absurd (not_isBlank_of_mem spelled hmem) (by decide)
    constructor
    · simp only [List.mem_append, not_or]
      exact ⟨⟨⟨⟨before.noFeed, htag⟩, after.noFeed⟩, by decide⟩, noFeed⟩
    · refine Text.append_ne_concat (fun u hu => ?_) noReturn
      have hspace : left ++ tag ++ right ++ [':'] ++ [' '] = u ++ ['\r'] := by
        rw [← hu]
        simp [Line.separator]
      exact absurd (List.cons.inj (List.append_inj' hspace rfl).2).1 (by decide)

/-- A line that is written for an item is read as that item. -/
theorem Writes.parse_eq (h : item.Writes line) (writable : item.Writable) :
    Line.parse line = .ok item.line := by
  cases h with
  | @line left tag right before spelled after =>
    have cut : Text.CutAt Line.separator (left ++ tag ++ right ++ Line.separator ++ item.content)
        (left ++ tag ++ right) item.content :=
      Text.cutAt_of_not_mem (not_mem_before before spelled after).1 _ _
    have htrim : Text.trim (left ++ tag ++ right) = tag :=
      Text.trim_padded before.blank (tag_trimmed spelled) after.blank
    apply Line.parse_of_reads
    cases writable with
    | literal noFeed noReturn =>
      refine .literal cut ?_
      rw [htrim]
      exact spelled
    | @reference kind subtype path allowed present noFeed trimmed =>
      have hreads := Line.Reads.reference cut (k := kind) (s := subtype) ?_
        (trimmed.not_isBlankText present)
      · rw [show Text.trim (content (.reference kind subtype path)) = path from trimmed.trim_eq]
          at hreads
        exact hreads
      · rw [htrim]
        refine .typed allowed ⟨?_, spelled⟩
        cases allowed with
        | sql => exact .inl rfl
        | api => exact .inr rfl

end Item

theorem linesFrom_of_writes {items : List Item} {written : List Text}
    (writable : ∀ item ∈ items, item.Writable) (writes : List.Forall₂ Item.Writes items written)
    (n : Nat) :
    (linesFrom n written).map (fun l => (l.number, Line.parse l.text)) =
      (items.zipIdx n).map fun p => (p.2, .ok p.1.line) := by
  induction writes generalizing n with
  | nil => rfl
  | @cons item line items written first _ ih =>
    obtain ⟨hitem, hitems⟩ := List.forall_mem_cons.mp writable
    have noComment : ¬ isComment line = true := by
      rw [first.isComment_eq_false]
      exact Bool.false_ne_true
    rw [linesFrom, if_neg noComment, List.map_cons, ih hitems, List.zipIdx_cons, List.map_cons,
      first.parse_eq hitem]

theorem plain_of_writes {items : List Item} {written : List Text}
    (writable : ∀ item ∈ items, item.Writable) (writes : List.Forall₂ Item.Writes items written) :
    ∀ line ∈ written, '\n' ∉ line ∧ ∀ u, line ≠ u ++ ['\r'] := by
  induction writes with
  | nil => exact List.forall_mem_nil _
  | cons first _ ih =>
    obtain ⟨hitem, hitems⟩ := List.forall_mem_cons.mp writable
    exact List.forall_mem_cons.mpr ⟨first.fits hitem, ih hitems⟩

/-- A run file with one line for each item, each ended by a line feed, is read as those items, in
their order, on the lines from one on. -/
theorem parse_lines_of_writes {items : List Item} {written : List Text}
    (writable : ∀ item ∈ items, item.Writable) (writes : List.Forall₂ Item.Writes items written) :
    (lines (written.flatMap (· ++ ['\n']))).map (fun l => (l.number, Line.parse l.text)) =
      (items.zipIdx 1).map fun p => (p.2, .ok p.1.line) := by
  rw [lines, Text.lines_flatMap_feed (plain_of_writes writable writes)]
  exact linesFrom_of_writes writable writes 1

/-- A content with a separator in it and a space at its end, and a path that looks like a line of its
own, after a tag with a wide space before it and a carriage return after it. -/
theorem parse_lines_of_writes_mixedCase :
    let items : List Item :=
      [.literal .sql " a: b -- ".toList, .reference .sql .report "API: y".toList]
    let text := "sQl:  a: b -- \n\u3000file/Sql/REPORT\r: API: y\n".toList
    (∀ item ∈ items, item.Writable) ∧
      (lines text).map (fun l => (l.number, Line.parse l.text)) =
        [(1, .ok (.literal (.literal .sql " a: b -- ".toList))),
          (2, .ok (.reference ⟨.sql, .report, .ofText "API: y".toList⟩))] := by
  intro items text
  have trimmed : Trimmed "API: y".toList := by constructor <;> simp [Text.isBlank]
  have noReturn : ∀ u, " a: b -- ".toList ≠ u ++ ['\r'] := by
    intro u hu
    exact absurd (congrArg List.getLast? hu) (by simp)
  have writable : ∀ item ∈ items, item.Writable :=
    List.forall_mem_cons.mpr ⟨.literal (by decide) noReturn,
      List.forall_mem_singleton.mpr (.reference (.sql _) (by decide) (by decide) trimmed)⟩
  have hnone : IsMargin [] := ⟨rfl, by decide⟩
  have hwide : IsMargin "\u3000".toList := ⟨by decide, by decide⟩
  have hreturn : IsMargin "\r".toList := ⟨by decide, by decide⟩
  have hsql : SameLetters "sQl".toList (Item.literal .sql " a: b -- ".toList).tag := by
    unfold SameLetters
    decide
  have hreport : SameLetters "file/Sql/REPORT".toList
      (Item.reference .sql .report "API: y".toList).tag := by
    unfold SameLetters
    decide
  have hread := parse_lines_of_writes writable
    (.cons (.line hnone hsql hnone) (.cons (.line hwide hreport hreturn) .nil))
  exact ⟨writable, hread⟩

end RunFile

end Runbook
