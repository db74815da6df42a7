import Runbook.Proofs.FailureClasses

/-! # Line numbers

A run looks at the number of a line for one thing only: a parse error tells it. Lines with other
numbers make the same run, except that its parse error tells the other number.
-/
namespace Runbook

def RunError.renumber (f : Nat → Nat) : RunError → RunError
  | .parse line m => .parse (f line) m
  | e => e

theorem RunError.renumber_of_not_isOfLine {e : RunError} (f : Nat → Nat) (h : ¬ e.IsOfLine) :
    e.renumber f = e := by
  cases e with
  | parse => exact absurd trivial h
  | fileNotFound | io | configuration | backend | rollback | connect | settings => rfl

theorem Resolution.Error.renumber_atLine (f : Nat → Nat) (line : Nat) (e : Resolution.Error) :
    (e.atLine line).renumber f = e.atLine (f line) := by
  cases e <;> rfl

namespace RunFile

def NumberedLine.renumber (f : Nat → Nat) (l : NumberedLine) : NumberedLine :=
  { l with number := f l.number }

theorem linesFrom_cons_renumber {f : Nat → Nat} {m n : Nat} {l : Text} {ls ls' : List Text}
    (first : f n = m)
    (rest : linesFrom (m + 1) ls' = (linesFrom (n + 1) ls).map (.renumber f)) :
    linesFrom m (l :: ls') = (linesFrom n (l :: ls)).map (.renumber f) := by
  subst first
  by_cases hc : isComment l = true
  · rw [linesFrom, linesFrom, if_pos hc, if_pos hc, rest]
  · rw [linesFrom, linesFrom, if_neg hc, if_neg hc, rest]
    rfl

theorem linesFrom_renumber {f : Nat → Nat} {m n : Nat} {ls : List Text}
    (moved : ∀ i < ls.length, f (n + i) = m + i) :
    linesFrom m ls = (linesFrom n ls).map (.renumber f) := by
  induction ls generalizing m n with
  | nil => rfl
  | cons l ls ih =>
    refine linesFrom_cons_renumber (moved 0 (Nat.zero_lt_succ _)) (ih fun i hi => ?_)
    rw [Nat.add_right_comm, Nat.add_right_comm m]
    exact moved (i + 1) (Nat.succ_lt_succ hi)

theorem linesFrom_add (m n : Nat) (ls : List Text) :
    linesFrom (m + n) ls = (linesFrom n ls).map (.renumber (m + ·)) :=
  linesFrom_renumber fun i _ => (Nat.add_assoc m n i).symm

end RunFile

namespace Engine

variable {σ : Type}

def Progress.renumber (f : Nat → Nat) (p : Progress σ) : Progress σ :=
  { p with failure := p.failure.map (RunError.renumber f) }

namespace Progress

theorem renumber_of_not_isOfLine {p : Progress σ} (f : Nat → Nat)
    (h : ∀ e, p.failure = some e → ¬ e.IsOfLine) : p.renumber f = p := by
  obtain ⟨failure, state, trace⟩ := p
  cases failure with
  | none => rfl
  | some e =>
    have he := RunError.renumber_of_not_isOfLine f (h e rfl)
    rw [renumber, Option.map_some, he]

theorem renumber_after (f : Nat → Nat) (first : Trace) (p : Progress σ) :
    (p.after first).renumber f = (p.renumber f).after first := rfl

theorem renumber_andThen (f : Nat → Nat) (p : Progress σ) (next : State σ → Progress σ) :
    (p.andThen next).renumber f = (p.renumber f).andThen fun s => (next s).renumber f := by
  obtain ⟨failure, state, trace⟩ := p
  cases failure <;> rfl

end Progress

theorem forEach_renumber {α : Type} (f : Nat → Nat) (g : α → State σ → Progress σ) (l : List α)
    (s : State σ) :
    (forEach g l s).renumber f = forEach (fun a s => (g a s).renumber f) l s := by
  induction l generalizing s with
  | nil => rfl
  | cons a l ih =>
    rw [forEach, forEach, Progress.renumber_andThen]
    congr 1
    funext t
    exact ih t

theorem forEach_map {α β : Type} (h : α → β) (g : β → State σ → Progress σ) (l : List α) :
    forEach g (l.map h) = forEach (fun a => g (h a)) l := by
  induction l with
  | nil => rfl
  | cons a l ih =>
    funext s
    rw [List.map_cons, forEach, forEach, ih]

theorem step_renumber (b : Backend σ) (columns : Nat) (f : Nat → Nat) (d : Directive)
    (s : State σ) : (step b columns d s).renumber f = step b columns d s := by
  apply Progress.renumber_of_not_isOfLine
  intro e he
  rcases step_cases b columns d s with ⟨hf, -⟩ | ⟨e', hf, stops⟩
  · rw [hf] at he
    cases he
  · obtain rfl := Option.some.inj (hf.symm.trans he)
    exact stops.not_isOfLine

theorem finish_renumber (f : Nat → Nat) (s : State σ) : (finish s).renumber f = finish s := by
  apply Progress.renumber_of_not_isOfLine
  intro e he
  obtain ⟨-, message, rfl⟩ := finish_failure_eq_some he
  exact id

theorem expand_renumber (fs : FileSystem) (f : Nat → Nat) (l : RunFile.NumberedLine) :
    (expand fs (l.renumber f)).leaves = (expand fs l).leaves.mapError (RunError.renumber f) ∧
      (expand fs (l.renumber f)).events = (expand fs l).events := by
  have htext : (l.renumber f).text = l.text := rfl
  have hnumber : (l.renumber f).number = f l.number := rfl
  simp only [expand, htext, hnumber]
  cases Line.parse l.text with
  | error e => exact ⟨rfl, rfl⟩
  | ok x =>
    cases x with
    | literal d => exact ⟨rfl, rfl⟩
    | reference r =>
      refine ⟨?_, rfl⟩
      simp only
      cases (r.resolve fs).result with
      | ok ds => rfl
      | error e => exact congrArg Except.error (Resolution.Error.renumber_atLine f l.number e).symm

theorem runLine_renumber (b : Backend σ) (fs : FileSystem) (columns : Nat) (f : Nat → Nat)
    (l : RunFile.NumberedLine) (s : State σ) :
    runLine b fs columns (l.renumber f) s = (runLine b fs columns l s).renumber f := by
  obtain ⟨hleaves, hevents⟩ := expand_renumber fs f l
  simp only [runLine, hleaves, hevents, Progress.renumber_after]
  congr 1
  cases (expand fs l).leaves with
  | error e => rfl
  | ok ds =>
    have hstep : (fun d t => (step b columns d t).renumber f) = step b columns := by
      funext d t
      exact step_renumber b columns f d t
    have hsteps := forEach_renumber f (step b columns) ds s
    rw [hstep] at hsteps
    exact hsteps.symm

theorem runLines_renumber (b : Backend σ) (fs : FileSystem) (columns : Nat) (f : Nat → Nat)
    (ls : List RunFile.NumberedLine) (s : State σ) :
    forEach (runLine b fs columns) (ls.map (.renumber f)) s =
      (forEach (runLine b fs columns) ls s).renumber f := by
  have hline : (fun l => runLine b fs columns (RunFile.NumberedLine.renumber f l)) =
      fun l s => (runLine b fs columns l s).renumber f := by
    funext l s
    exact runLine_renumber b fs columns f l s
  rw [forEach_map, hline, forEach_renumber]

/-- Texts with the same lines under other numbers make the same run. -/
theorem run_renumber (b : Backend σ) {fs : FileSystem} (columns : Nat) {f : Nat → Nat}
    {text text' : Text} (s : State σ)
    (h : RunFile.lines text' = (RunFile.lines text).map (.renumber f)) :
    run b fs columns text' s = (run b fs columns text s).renumber f := by
  have hfinish : (fun s : State σ => (finish s).renumber f) = finish := by
    funext t
    exact finish_renumber f t
  rw [run, run, h, runLines_renumber, Progress.renumber_andThen, hfinish]

end Engine

end Runbook
