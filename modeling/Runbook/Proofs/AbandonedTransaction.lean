import Runbook.Proofs.FailureClasses

/-! # Transactions that a bad line leaves open

A rollback answers a failed call. A line that cannot be read, or whose reference cannot be resolved,
ends the run without one: inside a transaction the last call is no rollback, and the transaction
stays open.
-/
namespace Runbook.Engine

variable {σ : Type}

/-- A run whose last call is a rollback, with no transaction open after it. -/
def RolledBack (p : Progress σ) : Prop :=
  (∃ xs x, exchanges p.trace = xs ++ [x] ∧ x.call = .control .rollback) ∧
    p.state.transaction = .none

/-- Where all calls are those for directives, none is a rollback. -/
theorem Sent.not_rolledBack {s : State σ} {ds : List Directive} {p : Progress σ}
    (h : Sent s ds p) : ¬ RolledBack p := by
  rintro ⟨⟨xs, x, hx, hcall⟩, -⟩
  have hmem : x.call ∈ ds.map callFor := by
    rw [← h.calls, hx]
    exact List.mem_map_of_mem (List.mem_append_right xs List.mem_cons_self)
  obtain ⟨d, -, hd⟩ := List.mem_map.mp hmem
  exact callFor_ne_rollback d (hd.trans hcall)

/-- A run that a bad line ends stays in the transaction of the directives above it. That an open
transaction is rolled back is true of such a run exactly when none was open. -/
theorem rolledBack_iff_of_isOfLine {b : Backend σ} {fs : FileSystem} {columns : Nat} {text : Text}
    {s : State σ} {e : RunError} (h : (run b fs columns text s).failure = some e)
    (line : e.IsOfLine) :
    ∃ above bad below ds, Text.lines text = above ++ bad :: below ∧ Leaves fs above ds ∧
      Unreadable fs (above.length + 1) bad e ∧ Sent s ds (run b fs columns text s) ∧
      ((s.transaction.after ds = .opened → RolledBack (run b fs columns text s)) ↔
        s.transaction.after ds = .none) := by
  obtain ⟨above, bad, below, ds, split, leaves, unreadable, sent, -⟩ :=
    failedAtLine_of_isOfLine h line
  refine ⟨above, bad, below, ds, split, leaves, unreadable, sent, fun promise => ?_, ?_⟩
  · cases ht : s.transaction.after ds with
    | none => rfl
    | opened => exact absurd (promise ht) sent.not_rolledBack
  · intro closed opened
    rw [closed] at opened
    cases opened

/-- A file that is missing, after a transaction was committed and another opened. -/
theorem rolledBack_iff_missingFile :
    let text := "SQL/TRANSACTION: \nSQL/COMMIT: \nSQL/TRANSACTION: \nFILE/SQL: a.sql\n".toList
    let s : State (Script Verdict) := .fresh ⟨[], []⟩
    let p := run Backend.recorder Virtual.empty.fileSystem 80 text s
    let e := RunError.fileNotFound (.ofText "a.sql".toList)
    p.failure = some e ∧ e.IsOfLine ∧ ∃ above bad below ds,
      Text.lines text = above ++ bad :: below ∧ Leaves Virtual.empty.fileSystem above ds ∧
      Unreadable Virtual.empty.fileSystem (above.length + 1) bad e ∧ Sent s ds p ∧
      ((s.transaction.after ds = .opened → RolledBack p) ↔ s.transaction.after ds = .none) :=
  ⟨by decide, trivial, rolledBack_iff_of_isOfLine (by decide) trivial⟩

/-- A line with an unknown tag in a transaction: nothing is rolled back, and the transaction stays
open. -/
theorem not_rolledBack_unknownTag :
    let text := "SQL/TRANSACTION: \nBOGUS: x\n".toList
    let p := run Backend.recorder Virtual.empty.fileSystem 80 text (.fresh ⟨[], []⟩)
    p.failure = some (.parse 2 "unknown directive 'BOGUS'".toList) ∧
      p.state.transaction = .opened ∧
      (exchanges p.trace).map Exchange.call = [.control .start] ∧ ¬ RolledBack p := by
  refine ⟨by decide, by decide, rfl, ?_⟩
  rintro ⟨-, closed⟩
  exact absurd closed (by decide)

end Runbook.Engine
