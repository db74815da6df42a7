import Runbook.Backend.Scripted
import Runbook.FileSystem.Virtual
import Runbook.Proofs.LineBreaks
import Runbook.Proofs.Renumbering

/-! # Runs compose

A run of two texts, of which the first ends with a line end, is the run of the first and then the
run of the second by the engine that the first has left. Only the end of the first text is passed
over: there nothing is reported, and a transaction may stay open.
-/
namespace Runbook

theorem RunFile.lines_append {above : Text} (ended : above = [] ∨ ∃ t, above = t ++ ['\n'])
    (below : Text) :
    lines (above ++ below) =
      lines above ++ (lines below).map (.renumber ((Text.lines above).length + ·)) := by
  have hbelow : linesFrom (1 + (Text.lines above).length) (Text.lines below) =
      (lines below).map (.renumber ((Text.lines above).length + ·)) := by
    rw [Nat.add_comm]
    exact linesFrom_add _ 1 (Text.lines below)
  rw [lines, Text.lines_append ended, linesFrom_append, hbelow]
  rfl

namespace Engine

variable {σ : Type}

/-- The error at the end of a run file that leaves a transaction open. -/
def unclosed : RunError :=
  .configuration "SQL/TRANSACTION was never followed by SQL/COMMIT".toList

theorem refusal?_ne_unclosed (t : Transaction) (k : Kind) : refusal? t k ≠ some unclosed := by
  cases t <;> cases k <;> decide

theorem finish_failure_cases (s : State σ) :
    (finish s).failure = none ∨ (finish s).failure = some unclosed := by
  rw [finish]
  cases s.transaction with
  | none => exact .inl rfl
  | opened => exact .inr rfl

theorem Stops.ne_unclosed {b : Backend σ} {d : Directive} {s s' : State σ} {e : RunError}
    {ys : List Exchange} (h : Stops b d s e ys s') : e ≠ unclosed := by
  cases h with
  | refused refusal =>
    rintro rfl
    exact refusal?_ne_unclosed _ _ refusal
  | rejected => exact fun h => by cases h
  | rolledBack =>
    rw [rollbackError]
    split <;> exact fun h => by cases h

/-- Before its end no run file is found to leave a transaction open. -/
theorem runLines_failure_ne_unclosed (b : Backend σ) (fs : FileSystem) (columns : Nat)
    (text : Text) (s : State σ) :
    (forEach (runLine b fs columns) (RunFile.lines text) s).failure ≠ some unclosed := by
  intro h
  cases course b fs columns (Text.lines text) s with
  | through _ _ failure =>
    rw [RunFile.lines, failure] at h
    cases h
  | ended ending failure =>
    obtain rfl := Option.some.inj (failure.symm.trans h)
    cases ending with
    | unreadable _ _ bad _ => exact bad.isOfLine
    | stopped _ _ _ stops _ => exact stops.ne_unclosed rfl

/-- A run that comes to any other end than these two has come there before the end of its file. -/
theorem runLines_eq_run {b : Backend σ} {fs : FileSystem} {columns : Nat} {text : Text}
    {s : State σ} {e : RunError} (failure : (run b fs columns text s).failure = some e)
    (other : e ≠ unclosed) :
    forEach (runLine b fs columns) (RunFile.lines text) s = run b fs columns text s := by
  cases hlines : (forEach (runLine b fs columns) (RunFile.lines text) s).failure with
  | some e' => rw [run, Progress.andThen_of_some hlines]
  | none =>
    rw [run, Progress.andThen_of_none hlines] at failure
    have hfinish : (finish (forEach (runLine b fs columns) (RunFile.lines text) s).state).failure =
        some e := failure
    rcases finish_failure_cases (forEach (runLine b fs columns) (RunFile.lines text) s).state
      with h | h
    · rw [h] at hfinish
      cases hfinish
    · exact absurd (Option.some.inj (hfinish.symm.trans h)) other

theorem runLines_failure_eq_none {b : Backend σ} {fs : FileSystem} {columns : Nat} {text : Text}
    {s : State σ} (h : (run b fs columns text s).failure = none ∨
      (run b fs columns text s).failure = some unclosed) :
    (forEach (runLine b fs columns) (RunFile.lines text) s).failure = none := by
  cases hlines : (forEach (runLine b fs columns) (RunFile.lines text) s).failure with
  | none => rfl
  | some e =>
    rw [run, Progress.andThen_of_some hlines, hlines] at h
    rcases h with h | h
    · cases h
    · exact absurd (hlines.trans h) (runLines_failure_ne_unclosed b fs columns text s)

theorem run_append_eq_andThen (b : Backend σ) (fs : FileSystem) (columns : Nat) {above : Text}
    (ended : above = [] ∨ ∃ t, above = t ++ ['\n']) (below : Text) (s : State σ) :
    run b fs columns (above ++ below) s =
      (forEach (runLine b fs columns) (RunFile.lines above) s).andThen fun t =>
        (run b fs columns below t).renumber ((Text.lines above).length + ·) := by
  rw [run, RunFile.lines_append ended, forEach_append, Progress.andThen_assoc]
  congr 1
  funext t
  rw [runLines_renumber, run, Progress.renumber_andThen]
  congr 1
  funext u
  exact (finish_renumber _ u).symm

/-- When the first of two texts is carried out, perhaps with a transaction left open, what is done
for both is what was done for the first up to its end and then what is done for the second. The
engine is left as the second run leaves it, with the same result but for the lines of parse errors.
When the first text ends in any other error, that is all. -/
theorem run_append (b : Backend σ) (fs : FileSystem) (columns : Nat) {above : Text}
    (ended : above = [] ∨ ∃ t, above = t ++ ['\n']) (below : Text) (s : State σ) :
    let first := run b fs columns above s
    let second := run b fs columns below first.state
    let both := run b fs columns (above ++ below) s
    (first.failure = none ∨ first.failure = some unclosed →
      exchanges both.trace = exchanges first.trace ++ exchanges second.trace ∧
        (∃ done, first.trace = done ++ (finish first.state).trace ∧
          both.trace = done ++ second.trace) ∧
        both.failure = second.failure.map (RunError.renumber ((Text.lines above).length + ·)) ∧
        both.state = second.state) ∧
      ∀ e, first.failure = some e → e ≠ unclosed → both = first := by
  intro first second both
  have hboth := run_append_eq_andThen b fs columns ended below s
  constructor
  · intro h
    have hlines := runLines_failure_eq_none h
    have hfirst : first =
        (finish (forEach (runLine b fs columns) (RunFile.lines above) s).state).after
          (forEach (runLine b fs columns) (RunFile.lines above) s).trace :=
      Progress.andThen_of_none hlines
    have hstate : first.state = (forEach (runLine b fs columns) (RunFile.lines above) s).state := by
      rw [hfirst]
      exact finish_state _
    rw [Progress.andThen_of_none hlines, ← hstate] at hboth
    have htrace : first.trace =
        (forEach (runLine b fs columns) (RunFile.lines above) s).trace ++
          (finish first.state).trace := by
      rw [hstate, hfirst]
      rfl
    have hall : both.trace =
        (forEach (runLine b fs columns) (RunFile.lines above) s).trace ++ second.trace :=
      congrArg Progress.trace hboth
    refine ⟨?_, ⟨_, htrace, hall⟩, congrArg Progress.failure hboth,
      (congrArg Progress.state hboth).trans rfl⟩
    rw [hall, htrace, exchanges_append, exchanges_append, exchanges_finish, List.append_nil]
  · intro e failure other
    have hlines : forEach (runLine b fs columns) (RunFile.lines above) s = first :=
      runLines_eq_run failure other
    rw [hlines, Progress.andThen_of_some failure] at hboth
    exact hboth

/-- A transaction that is opened in the first text and is open still where the second one breaks
off, and a first text that is over before its second line. -/
theorem run_append_openTransaction :
    let run text s := run Backend.recorder Virtual.empty.fileSystem 80 text s
    let fresh : State (Script Verdict) := .fresh ⟨[], []⟩
    let above := "SQL/TRANSACTION: \r\n-- c\r\n".toList
    let below := "SQL: a\nBOGUS: x".toList
    let misplaced := "SQL/COMMIT: \nSQL: b\n".toList
    let first := run above fresh
    first.failure = some unclosed ∧
      exchanges (run (above ++ below) fresh).trace =
        exchanges first.trace ++ exchanges (run below first.state).trace ∧
      (run (above ++ below) fresh).failure = some (.parse 4 "unknown directive 'BOGUS'".toList) ∧
      (run misplaced fresh).failure ≠ none ∧ run (misplaced ++ below) fresh = run misplaced fresh := by
  intro run fresh above below misplaced first
  have ended : above = [] ∨ ∃ t, above = t ++ ['\n'] :=
    .inr ⟨"SQL/TRANSACTION: \r\n-- c\r".toList, by decide⟩
  have ended' : misplaced = [] ∨ ∃ t, misplaced = t ++ ['\n'] :=
    .inr ⟨"SQL/COMMIT: \nSQL: b".toList, by decide⟩
  have hopen : first.failure = some unclosed := by decide
  have hmisplaced : (run misplaced fresh).failure =
      some (.configuration "SQL/COMMIT without an open transaction".toList) := by decide
  obtain ⟨hthrough, -⟩ := run_append Backend.recorder Virtual.empty.fileSystem 80 ended below fresh
  obtain ⟨hcalls, -, hfailure, -⟩ := hthrough (.inr hopen)
  obtain ⟨-, hover⟩ := run_append Backend.recorder Virtual.empty.fileSystem 80 ended' below fresh
  refine ⟨hopen, hcalls, hfailure.trans (by decide), ?_, hover _ hmisplaced (by decide)⟩
  rw [hmisplaced]
  exact Option.some_ne_none _

end Engine

end Runbook
