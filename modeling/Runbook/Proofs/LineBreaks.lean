import Runbook.Text.Lines

/-! # Line breaks

A text is cut at its line feeds: the first line ends at the first of them, and the lines of the rest
follow. So a text that ends with a line end may be followed by any other.
-/
namespace Runbook.Text

theorem dropReturn_return (l : Text) : dropReturn (l ++ ['\r']) = l := by
  rw [dropReturn, before?_eq_some_iff.mpr rfl]
  rfl

theorem dropReturn_eq_self {l : Text} (h : ∀ u, l ≠ u ++ ['\r']) : dropReturn l = l := by
  cases hl : before? ['\r'] l with
  | some u => exact absurd (before?_eq_some_iff.mp hl) (h u)
  | none =>
    rw [dropReturn, hl]
    rfl

theorem mem_of_mem_dropReturn {c : Char} {l : Text} (h : c ∈ dropReturn l) : c ∈ l := by
  cases hl : before? ['\r'] l with
  | some u =>
    rw [dropReturn, hl] at h
    rw [before?_eq_some_iff.mp hl]
    exact List.mem_append_left _ h
  | none =>
    rw [dropReturn, hl] at h
    exact h

theorem linesFrom_cons {c : Char} (hc : c ≠ '\n') (line t : Text) :
    linesFrom line (c :: t) = linesFrom (c :: line) t := by
  rw [linesFrom]
  exact fun h => hc h

theorem linesFrom_of_not_mem {l : Text} (h : '\n' ∉ l) (line rest : Text) :
    linesFrom line (l ++ rest) = linesFrom (l.reverse ++ line) rest := by
  induction l generalizing line with
  | nil => rfl
  | cons c l ih =>
    have hc : c ≠ '\n' := (List.ne_of_not_mem_cons h).symm
    rw [List.cons_append, linesFrom_cons hc, ih (List.not_mem_of_not_mem_cons h)]
    simp

theorem lines_of_not_mem {l : Text} (h : '\n' ∉ l) : lines l = if l = [] then [] else [l] := by
  have hl := linesFrom_of_not_mem h [] []
  rw [List.append_nil, List.append_nil] at hl
  rw [lines, hl, linesFrom]
  simp

/-- The first line feed ends the first line. -/
theorem lines_feed {l : Text} (h : '\n' ∉ l) (t : Text) :
    lines (l ++ '\n' :: t) = dropReturn l :: lines t := by
  rw [lines, linesFrom_of_not_mem h, linesFrom, List.append_nil, List.reverse_reverse]
  rfl

theorem feed_not_mem_of_mem_linesFrom {t line l : Text} (h : '\n' ∉ line)
    (hl : l ∈ linesFrom line t) : '\n' ∉ l := by
  have hreverse : '\n' ∉ line.reverse := fun hmem => h (List.mem_reverse.mp hmem)
  induction t generalizing line with
  | nil =>
    rw [linesFrom] at hl
    split at hl
    · cases hl
    · rw [List.mem_singleton.mp hl]
      exact hreverse
  | cons c t ih =>
    by_cases hc : c = '\n'
    · subst hc
      rcases List.mem_cons.mp hl with rfl | hl
      · exact fun hmem => hreverse (mem_of_mem_dropReturn hmem)
      · exact ih List.not_mem_nil hl List.not_mem_nil
    · rw [linesFrom_cons hc] at hl
      have hnext : '\n' ∉ c :: line := List.not_mem_cons_of_ne_of_not_mem (Ne.symm hc) h
      exact ih hnext hl fun hmem => hnext (List.mem_reverse.mp hmem)

theorem feed_not_mem_of_mem_lines {t l : Text} (h : l ∈ lines t) : '\n' ∉ l :=
  feed_not_mem_of_mem_linesFrom List.not_mem_nil h

theorem linesFrom_feed_append (line t rest : Text) :
    linesFrom line (t ++ '\n' :: rest) = linesFrom line (t ++ ['\n']) ++ lines rest := by
  induction t generalizing line with
  | nil => rfl
  | cons c t ih =>
    rw [List.cons_append, List.cons_append]
    by_cases hc : c = '\n'
    · subst hc
      rw [linesFrom, linesFrom, ih, List.cons_append]
    · rw [linesFrom_cons hc, linesFrom_cons hc, ih]

/-- After a text that is empty or ends with a line feed a new line begins. -/
theorem lines_append {above : Text} (ended : above = [] ∨ ∃ t, above = t ++ ['\n']) (below : Text) :
    lines (above ++ below) = lines above ++ lines below := by
  rcases ended with rfl | ⟨t, rfl⟩
  · rfl
  · rw [List.append_assoc]
    exact linesFrom_feed_append [] t below

end Runbook.Text
