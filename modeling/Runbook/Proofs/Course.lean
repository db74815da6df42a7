import Runbook.Proofs.Exchange

/-! # The course of a run

The physical lines of a run file stand for directives: a comment for none, a literal line for its
own, and a reference for those of its files. A run sends them in order and comes to the end of the
file, or stops at a line that cannot be read or at a directive that is not accepted.
-/
namespace Runbook.Engine

variable {σ : Type}

inductive Stands (fs : FileSystem) : Text → List Directive → Prop
  | comment {line : Text} (isComment : RunFile.isComment line = true) : Stands fs line []
  | literal {line : Text} {d : Directive} (noComment : RunFile.isComment line = false)
      (parsed : Line.parse line = .ok (.literal d)) : Stands fs line [d]
  | reference {line : Text} {r : Reference} {ds : List Directive}
      (noComment : RunFile.isComment line = false)
      (parsed : Line.parse line = .ok (.reference r)) (resolved : (r.resolve fs).result = .ok ds) :
      Stands fs line ds

/-- A line with this number is no comment and breaks the grammar, or refers to files that cannot be
had. -/
inductive Unreadable (fs : FileSystem) (number : Nat) : Text → RunError → Prop
  | malformed {line : Text} {e : Line.Error} (noComment : RunFile.isComment line = false)
      (parsed : Line.parse line = .error e) : Unreadable fs number line (.parse number e.message)
  | unresolved {line : Text} {r : Reference} {e : Resolution.Error}
      (noComment : RunFile.isComment line = false)
      (parsed : Line.parse line = .ok (.reference r)) (failed : (r.resolve fs).result = .error e) :
      Unreadable fs number line (e.atLine number)

inductive Leaves (fs : FileSystem) : List Text → List Directive → Prop
  | nil : Leaves fs [] []
  | cons {line : Text} {lines : List Text} {ds more : List Directive} (first : Stands fs line ds)
      (rest : Leaves fs lines more) : Leaves fs (line :: lines) (ds ++ more)

namespace Stands

variable {fs : FileSystem} {line : Text} {ds es : List Directive} {e : RunError} {n : Nat}

theorem unique (h : Stands fs line ds) (h' : Stands fs line es) : ds = es := by
  cases h <;> cases h' <;> simp_all

theorem not_unreadable (h : Stands fs line ds) : ¬ Unreadable fs n line e := by
  intro h'
  cases h <;> cases h' <;> simp_all

end Stands

namespace Leaves

variable {fs : FileSystem} {lines more : List Text} {line : Text} {ds es : List Directive}

theorem append (h : Leaves fs lines ds) (h' : Leaves fs more es) :
    Leaves fs (lines ++ more) (ds ++ es) := by
  induction h with
  | nil => exact h'
  | cons first _ ih =>
    rw [List.append_assoc]
    exact .cons first ih

theorem single (h : Stands fs line ds) : Leaves fs [line] ds := by
  have h' := Leaves.cons h .nil
  rwa [List.append_nil] at h'

/-- The directives of some lines are cut where the lines are. -/
theorem split (h : Leaves fs (lines ++ more) es) :
    ∃ before after, es = before ++ after ∧ Leaves fs lines before ∧ Leaves fs more after := by
  induction lines generalizing es with
  | nil => exact ⟨[], es, rfl, .nil, h⟩
  | cons line lines ih =>
    cases h with
    | cons first rest =>
      obtain ⟨before, after, rfl, hb, ha⟩ := ih rest
      exact ⟨_, after, (List.append_assoc ..).symm, .cons first hb, ha⟩

/-- Lines that all stand for directives have none among them that cannot be read. -/
theorem not_unreadable {n : Nat} {e : RunError} (h : Leaves fs (lines ++ line :: more) ds) :
    ¬ Unreadable fs n line e := by
  obtain ⟨_, _, _, _, h'⟩ := h.split
  cases h' with
  | cons first _ => exact first.not_unreadable

theorem unique (h : Leaves fs lines ds) (h' : Leaves fs lines es) : ds = es := by
  induction h generalizing es with
  | nil => cases h'; rfl
  | cons first _ ih =>
    cases h' with
    | cons first' rest' => rw [first.unique first', ih rest']

end Leaves

/-- What a numbered line is expanded to is what it stands for, or says why it cannot be read. -/
theorem expand_cases (fs : FileSystem) (n : Nat) {line : Text}
    (noComment : RunFile.isComment line = false) :
    (∃ ds, (expand fs ⟨n, line⟩).leaves = .ok ds ∧ Stands fs line ds) ∨
      ∃ e, (expand fs ⟨n, line⟩).leaves = .error e ∧ Unreadable fs n line e := by
  cases hp : Line.parse line with
  | error e => exact .inr ⟨_, by simp only [expand, hp], .malformed noComment hp⟩
  | ok x =>
    cases x with
    | literal d => exact .inl ⟨[d], by simp only [expand, hp], .literal noComment hp⟩
    | reference r =>
      cases hr : (r.resolve fs).result with
      | ok ds =>
        exact .inl ⟨ds, by simp only [expand, hp, hr]; rfl, .reference noComment hp hr⟩
      | error e =>
        exact .inr ⟨_, by simp only [expand, hp, hr]; rfl, .unresolved noComment hp hr⟩

/-- How a run ends on some physical lines before they are through: at one that cannot be read, or at
a directive that is not accepted. -/
inductive Ending (b : Backend σ) (fs : FileSystem) (lines : List Text) (s : State σ)
    (p : Progress σ) : RunError → Prop
  | unreadable {above below : List Text} {line : Text} {ds : List Directive} {e : RunError}
      (split : lines = above ++ line :: below) (leaves : Leaves fs above ds)
      (bad : Unreadable fs (above.length + 1) line e)
      (sent : Accepts b s ds (exchanges p.trace) p.state) : Ending b fs lines s p e
  | stopped {above below : List Text} {before after : List Directive} {d : Directive}
      {e : RunError} {xs ys : List Exchange} {s' : State σ}
      (split : lines = above ++ below) (leaves : Leaves fs above (before ++ d :: after))
      (sent : Accepts b s before xs s') (stops : Stops b d s' e ys p.state)
      (exchanges : exchanges p.trace = xs ++ ys) : Ending b fs lines s p e

/-- Further lines do not change how a run ended before them. -/
theorem Ending.extend {b : Backend σ} {fs : FileSystem} {lines : List Text} {s : State σ}
    {p : Progress σ} {e : RunError} (more : List Text) (h : Ending b fs lines s p e) :
    Ending b fs (lines ++ more) s p e := by
  cases h with
  | @unreadable above below bad _ _ split leaves unreadable sent =>
    have split' : lines ++ more = above ++ bad :: (below ++ more) := by
      rw [split, List.append_assoc, List.cons_append]
    exact .unreadable split' leaves unreadable sent
  | @stopped above below _ _ _ _ _ _ _ split leaves sent stops hx =>
    have split' : lines ++ more = above ++ (below ++ more) := by
      rw [split, List.append_assoc]
    exact .stopped split' leaves sent stops hx

/-- How far a run came on some physical lines. -/
inductive Course (b : Backend σ) (fs : FileSystem) (lines : List Text) (s : State σ)
    (p : Progress σ) : Prop
  | through {ds : List Directive} (leaves : Leaves fs lines ds)
      (sent : Accepts b s ds (exchanges p.trace) p.state) (failure : p.failure = none)
  | ended {e : RunError} (ending : Ending b fs lines s p e) (failure : p.failure = some e)

theorem runLine_of_error (b : Backend σ) {fs : FileSystem} (columns : Nat)
    {l : RunFile.NumberedLine} {e : RunError} (s : State σ) (h : (expand fs l).leaves = .error e) :
    (runLine b fs columns l s).failure = some e ∧ (runLine b fs columns l s).state = s ∧
      exchanges (runLine b fs columns l s).trace = [] := by
  simp only [runLine, h]
  exact ⟨rfl, rfl, by rw [exchanges_after, exchanges_map_log]; rfl⟩

theorem runLine_of_ok (b : Backend σ) {fs : FileSystem} (columns : Nat)
    {l : RunFile.NumberedLine} {ds : List Directive} (s : State σ)
    (h : (expand fs l).leaves = .ok ds) : Sending b ds s (runLine b fs columns l s) := by
  simp only [runLine, h]
  exact (sending b columns ds s).after_logs _

/-- A course goes on with a line that is no comment. -/
theorem Course.read {b : Backend σ} {fs : FileSystem} {lines : List Text} {s : State σ}
    {p : Progress σ} {line : Text} {ds : List Directive} (columns : Nat)
    (noComment : RunFile.isComment line = false) (leaves : Leaves fs lines ds)
    (sent : Accepts b s ds (exchanges p.trace) p.state) :
    Course b fs (lines ++ [line]) s
      ((runLine b fs columns ⟨lines.length + 1, line⟩ p.state).after p.trace) := by
  rcases expand_cases fs (lines.length + 1) noComment with ⟨es, hl, hs⟩ | ⟨e, hl, hu⟩
  · have leaves' := leaves.append (.single hs)
    cases runLine_of_ok b columns p.state hl with
    | through sent' failure =>
      refine .through leaves' ?_ failure
      rw [exchanges_after]
      exact sent.append sent'
    | stopped split sent' stops hx failure =>
      rw [split, ← List.append_assoc] at leaves'
      refine .ended (.stopped (List.append_nil _).symm leaves' (sent.append sent') stops ?_) failure
      rw [exchanges_after, hx, List.append_assoc]
  · obtain ⟨hf, hs, hx⟩ := runLine_of_error b columns p.state hl
    refine .ended (.unreadable rfl leaves hu ?_) hf
    rw [exchanges_after, hx, List.append_nil]
    exact (congrArg (Accepts b s ds _) hs).mpr sent

/-- One physical line more. -/
theorem Course.next {b : Backend σ} {fs : FileSystem} {lines : List Text} {s : State σ}
    {p : Progress σ} (columns : Nat) (line : Text) (h : Course b fs lines s p) :
    Course b fs (lines ++ [line]) s (p.andThen
      (forEach (runLine b fs columns) (RunFile.linesFrom (lines.length + 1) [line]))) := by
  cases h with
  | ended ending failure =>
    rw [Progress.andThen_of_some failure]
    exact .ended (ending.extend [line]) failure
  | through leaves sent failure =>
    cases hc : RunFile.isComment line with
    | true =>
      rw [RunFile.linesFrom, if_pos hc, RunFile.linesFrom, forEach_nil, Progress.andThen_done]
      refine .through (leaves.append (.single (.comment hc))) ?_ failure
      rwa [List.append_nil]
    | false =>
      rw [RunFile.linesFrom, if_neg (by rw [hc]; exact Bool.false_ne_true), RunFile.linesFrom,
        forEach_singleton, Progress.andThen_of_none failure]
      exact .read columns hc leaves sent

/-- All further lines. -/
theorem Course.go_on {b : Backend σ} {fs : FileSystem} {lines : List Text} {s : State σ}
    {p : Progress σ} (columns : Nat) (more : List Text) (h : Course b fs lines s p) :
    Course b fs (lines ++ more) s (p.andThen
      (forEach (runLine b fs columns) (RunFile.linesFrom (lines.length + 1) more))) := by
  induction more generalizing lines p with
  | nil =>
    rw [List.append_nil, RunFile.linesFrom, forEach_nil, Progress.andThen_done]
    exact h
  | cons line more ih =>
    -- The line joins those that are done, which also gives the others their numbers.
    have h' := ih (h.next columns line)
    rw [Progress.andThen_assoc, List.length_append, List.append_assoc] at h'
    have hl : RunFile.linesFrom (lines.length + 1) (line :: more) =
        RunFile.linesFrom (lines.length + 1) [line] ++
          RunFile.linesFrom (lines.length + 1 + 1) more :=
      RunFile.linesFrom_append (lines.length + 1) [line] more
    have hf : forEach (runLine b fs columns) (RunFile.linesFrom (lines.length + 1) (line :: more)) =
        fun s => (forEach (runLine b fs columns) (RunFile.linesFrom (lines.length + 1) [line])
          s).andThen (forEach (runLine b fs columns)
            (RunFile.linesFrom (lines.length + 1 + 1) more)) := by
      funext s
      rw [hl, forEach_append]
    rw [hf]
    exact h'

theorem course (b : Backend σ) (fs : FileSystem) (columns : Nat) (lines : List Text)
    (s : State σ) :
    Course b fs lines s (forEach (runLine b fs columns) (RunFile.linesFrom 1 lines) s) := by
  have h : Course b fs [] s (Progress.done s) := .through .nil (.nil s) rfl
  have h' := h.go_on columns lines
  rwa [Progress.done_andThen] at h'

theorem finish_state (s : State σ) : (finish s).state = s := by
  simp only [finish]
  cases s.transaction <;> rfl

theorem exchanges_finish (s : State σ) : exchanges (finish s).trace = [] := by
  simp only [finish]
  cases s.transaction <;> rfl

theorem finish_failure_eq_none_iff (s : State σ) :
    (finish s).failure = none ↔ s.transaction = .none := by
  cases h : s.transaction <;> simp [finish, h]

theorem finish_failure_eq_some {s : State σ} {e : RunError} (h : (finish s).failure = some e) :
    s.transaction = .opened ∧ ∃ message, e = .configuration message := by
  simp only [finish] at h
  cases ht : s.transaction with
  | none => rw [ht] at h; cases h
  | opened => rw [ht] at h; cases h; exact ⟨rfl, _, rfl⟩

/-- A run came through its file and failed or not at the end of it, or ended before. -/
theorem run_cases (b : Backend σ) (fs : FileSystem) (columns : Nat) (text : Text) (s : State σ) :
    (∃ ds, Leaves fs (Text.lines text) ds ∧
      Accepts b s ds (exchanges (run b fs columns text s).trace) (run b fs columns text s).state ∧
      (run b fs columns text s).failure = (finish (run b fs columns text s).state).failure) ∨
    ∃ e, (run b fs columns text s).failure = some e ∧
      Ending b fs (Text.lines text) s (run b fs columns text s) e := by
  rw [run, RunFile.lines]
  cases course b fs columns (Text.lines text) s with
  | ended ending failure =>
    rw [Progress.andThen_of_some failure]
    exact .inr ⟨_, failure, ending⟩
  | @through ds leaves sent failure =>
    rw [Progress.andThen_of_none failure]
    refine .inl ⟨ds, leaves, ?_, ?_⟩
    · rw [exchanges_after, exchanges_finish, List.append_nil]
      exact (congrArg (Accepts b s ds _) (finish_state _)).mpr sent
    · exact congrArg (fun s => (finish s).failure) (finish_state _).symm

/-- A run that succeeds has sent everything and left no transaction open. -/
theorem sent_of_failure_eq_none {b : Backend σ} {fs : FileSystem} {columns : Nat} {text : Text}
    {s : State σ} (h : (run b fs columns text s).failure = none) :
    ∃ ds, Leaves fs (Text.lines text) ds ∧
      Accepts b s ds (exchanges (run b fs columns text s).trace)
        (run b fs columns text s).state ∧ (run b fs columns text s).state.transaction = .none := by
  rcases run_cases b fs columns text s with ⟨ds, leaves, sent, failure⟩ | ⟨e, failure, -⟩
  · exact ⟨ds, leaves, sent, (finish_failure_eq_none_iff _).mp (failure.symm.trans h)⟩
  · rw [failure] at h
    cases h

/-- A run that fails has sent everything and left a transaction open, or ended before. -/
theorem ending_of_failure_eq_some {b : Backend σ} {fs : FileSystem} {columns : Nat} {text : Text}
    {s : State σ} {e : RunError} (h : (run b fs columns text s).failure = some e) :
    (∃ ds message, Leaves fs (Text.lines text) ds ∧
      Accepts b s ds (exchanges (run b fs columns text s).trace)
        (run b fs columns text s).state ∧
      (run b fs columns text s).state.transaction = .opened ∧ e = .configuration message) ∨
    Ending b fs (Text.lines text) s (run b fs columns text s) e := by
  rcases run_cases b fs columns text s with ⟨ds, leaves, sent, failure⟩ | ⟨e', failure, ending⟩
  · obtain ⟨opened, message, he⟩ := finish_failure_eq_some (failure.symm.trans h)
    exact .inl ⟨ds, message, leaves, sent, opened, he⟩
  · obtain rfl := Option.some.inj (failure.symm.trans h)
    exact .inr ending

end Runbook.Engine
