import Mathlib.Algebra.GroupWithZero.Nat
import Runbook.Backend.Scripted
import Runbook.FileSystem.Virtual
import Runbook.Proofs.LineBreaks
import Runbook.Proofs.Renumbering

/-! # Comments and line ends

Comment lines may be added to a run file, and its line feeds may become carriage returns with line
feeds: a run of it does and reports the same, except that a parse error counts the added lines.
-/
namespace Runbook

open Text (dropReturn)

namespace RunFile

/-- A line end is a line feed, with a carriage return before it or without. -/
def IsLineEnd (t : Text) : Prop := t = "\n".toList ∨ t = "\r\n".toList

/-- The second text is the first with comment lines added and line ends written in either way. The
numbers tell how many comment lines were added before the first line, between it and the second, and
so on to the end. -/
inductive Restyled : Text → Text → List Nat → Prop
  | last {t : Text} (noFeed : '\n' ∉ t) : Restyled t t [0]
  | line {l lineEnd t t' : Text} {added : List Nat} (noFeed : '\n' ∉ l) (ends : IsLineEnd lineEnd)
      (rest : Restyled t t' added) : Restyled (l ++ '\n' :: t) (l ++ lineEnd ++ t') (0 :: added)
  | comment {c t t' : Text} {n : Nat} {added : List Nat} (noFeed : '\n' ∉ c)
      (rest : Restyled t t' (n :: added)) :
      Restyled t ("--".toList ++ c ++ '\n' :: t') ((n + 1) :: added)

def movedLine (added : List Nat) (number : Nat) : Nat := number + (added.take number).sum

theorem isComment_hyphens (c : Text) : isComment ("--".toList ++ c) = true := by
  rw [isComment, Text.startsWith, Text.after?_eq_some_iff.mpr rfl]
  rfl

/-- A comment is one also without the carriage return at its end. -/
theorem isComment_dropReturn (c : Text) : isComment (dropReturn ("--".toList ++ c)) = true := by
  rcases List.eq_nil_or_concat c with rfl | ⟨init, d, hc⟩
  · decide
  · rw [List.concat_eq_append] at hc
    subst hc
    by_cases hd : d = '\r'
    · subst hd
      rw [← List.append_assoc, Text.dropReturn_return]
      exact isComment_hyphens init
    · rw [Text.dropReturn_eq_self]
      · exact isComment_hyphens _
      · intro u hu
        rw [← List.append_assoc] at hu
        exact hd (List.cons.inj (List.append_inj' hu rfl).2).1

theorem lines_line {l lineEnd : Text} (noFeed : '\n' ∉ l) (noReturn : ∀ u, l ≠ u ++ ['\r'])
    (ends : IsLineEnd lineEnd) (t : Text) : Text.lines (l ++ lineEnd ++ t) = l :: Text.lines t := by
  rcases ends with rfl | rfl
  · have hlines := Text.lines_feed noFeed t
    rw [Text.dropReturn_eq_self noReturn] at hlines
    rw [List.append_assoc]
    exact hlines
  · have noFeed' : '\n' ∉ l ++ ['\r'] := by
      intro h
      rcases List.mem_append.mp h with h | h
      · exact noFeed h
      · exact absurd (List.mem_singleton.mp h) (by decide)
    have hlines := Text.lines_feed noFeed' t
    rw [Text.dropReturn_return, List.append_assoc] at hlines
    rw [List.append_assoc]
    exact hlines

/-- The lines of a restyled text are those of the text; each has moved down by the comment lines
that were added above it. -/
theorem Restyled.linesFrom_eq {text text' : Text} {added : List Nat} (h : Restyled text text' added)
    (noReturn : ¬ ['\r', '\n'] <:+: text) {m n : Nat} {f : Nat → Nat}
    (moved : ∀ i, f (n + i) = m + i + (added.take (i + 1)).sum) :
    linesFrom m (Text.lines text') = (linesFrom n (Text.lines text)).map (.renumber f) := by
  induction h generalizing m n with
  | @last t noFeed =>
    rw [Text.lines_of_not_mem noFeed]
    split
    · rfl
    · exact linesFrom_cons_renumber (moved 0) rfl
  | @line l lineEnd t t' added noFeed ends rest ih =>
    have noReturn' : ∀ u, l ≠ u ++ ['\r'] := by
      rintro u rfl
      exact noReturn ⟨u, t, by simp⟩
    have hplain : Text.lines (l ++ "\n".toList ++ t) = l :: Text.lines t :=
      lines_line noFeed noReturn' (.inl rfl) t
    have htext : l ++ '\n' :: t = l ++ "\n".toList ++ t := by
      rw [List.append_assoc]
      rfl
    have hfirst : f n = m := moved 0
    rw [htext, hplain, lines_line noFeed noReturn' ends t']
    apply linesFrom_cons_renumber hfirst
    apply ih
    · intro hcut
      exact noReturn (hcut.trans ⟨l ++ ['\n'], [], by simp⟩)
    · intro i
      have hi := moved (i + 1)
      rw [List.take_succ_cons, List.sum_cons] at hi
      rw [Nat.add_assoc, Nat.add_comm 1 i, hi]
      omega
  | @comment c t t' k added noFeed rest ih =>
    have noFeed' : '\n' ∉ "--".toList ++ c := by
      intro h
      rcases List.mem_append.mp h with h | h
      · exact absurd h (by decide)
      · exact noFeed h
    rw [Text.lines_feed noFeed', linesFrom, if_pos (isComment_dropReturn c)]
    apply ih noReturn
    intro i
    have hi := moved i
    rw [List.take_succ_cons, List.sum_cons] at hi ⊢
    omega

theorem Restyled.lines_eq {text text' : Text} {added : List Nat} (h : Restyled text text' added)
    (noReturn : ¬ ['\r', '\n'] <:+: text) :
    lines text' = (lines text).map (.renumber (movedLine added)) := by
  apply h.linesFrom_eq noReturn
  intro i
  rw [movedLine, Nat.add_comm 1 i]

end RunFile

namespace Engine

variable {σ : Type}

/-- A run of a restyled text makes the same calls with the same answers, reports the same, and
leaves the engine in the same state. Its result is the same too, but a parse error tells the number
that its line has moved to. -/
theorem run_restyled (b : Backend σ) (fs : FileSystem) (columns : Nat) {text text' : Text}
    {added : List Nat} (s : State σ) (restyled : RunFile.Restyled text text' added)
    (noReturn : ¬ ['\r', '\n'] <:+: text) :
    let plain := run b fs columns text s
    let other := run b fs columns text' s
    other.trace = plain.trace ∧ other.state = plain.state ∧
      other.failure = plain.failure.map (RunError.renumber (RunFile.movedLine added)) := by
  intro plain other
  have h : other = plain.renumber (RunFile.movedLine added) :=
    run_renumber b columns s (restyled.lines_eq noReturn)
  rw [h]
  exact ⟨rfl, rfl, rfl⟩

/-- One comment line before the first line and two before the second, which cannot be read. -/
theorem run_restyled_unknownTag :
    let text := "SQL: a\nBOGUS: x".toList
    let text' := "-- h\r\nSQL: a\r\n--\n-- SQL: b\nBOGUS: x".toList
    let plain := run Backend.recorder Virtual.empty.fileSystem 80 text (.fresh ⟨[], []⟩)
    let other := run Backend.recorder Virtual.empty.fileSystem 80 text' (.fresh ⟨[], []⟩)
    RunFile.Restyled text text' [1, 2] ∧ ¬ ['\r', '\n'] <:+: text ∧
      plain.failure = some (.parse 2 "unknown directive 'BOGUS'".toList) ∧
      other.failure = some (.parse 5 "unknown directive 'BOGUS'".toList) ∧
      other.trace = plain.trace ∧ other.state = plain.state := by
  intro text text' plain other
  have restyled : RunFile.Restyled text text' [1, 2] := by
    have hall : RunFile.Restyled ("SQL: a".toList ++ '\n' :: "BOGUS: x".toList)
        ("--".toList ++ " h\r".toList ++ '\n' :: ("SQL: a".toList ++ "\r\n".toList ++
          ("--".toList ++ [] ++ '\n' ::
            ("--".toList ++ " SQL: b".toList ++ '\n' :: "BOGUS: x".toList)))) [1, 2] := by
      apply RunFile.Restyled.comment (by decide)
      apply RunFile.Restyled.line (by decide) (.inr rfl)
      apply RunFile.Restyled.comment (by decide)
      apply RunFile.Restyled.comment (by decide)
      exact .last (by decide)
    have htext : "SQL: a".toList ++ '\n' :: "BOGUS: x".toList = text := by decide
    have htext' : "--".toList ++ " h\r".toList ++ '\n' :: ("SQL: a".toList ++ "\r\n".toList ++
        ("--".toList ++ [] ++ '\n' ::
          ("--".toList ++ " SQL: b".toList ++ '\n' :: "BOGUS: x".toList))) = text' := by decide
    rw [htext, htext'] at hall
    exact hall
  have noReturn : ¬ ['\r', '\n'] <:+: text := by
    intro h
    exact absurd (h.subset List.mem_cons_self) (by decide)
  have hplain : plain.failure = some (.parse 2 "unknown directive 'BOGUS'".toList) := by decide
  obtain ⟨htrace, hstate, hfailure⟩ := run_restyled Backend.recorder Virtual.empty.fileSystem 80
    (.fresh ⟨[], []⟩) restyled noReturn
  exact ⟨restyled, noReturn, hplain, hfailure.trans (by rw [hplain]; rfl), htrace, hstate⟩

end Engine

end Runbook
