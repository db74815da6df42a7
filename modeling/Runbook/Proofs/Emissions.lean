import Mathlib.Data.List.Forall2
import Runbook.Proofs.DryRun

/-! # What a backend does in a run

The answers in the trace of a run are those of its backend, to calls for the directives that its
lines stand for or to rollbacks. So what is true of one call is true of all calls of a run, and what
every call leaves behind once stands there in the order of the calls.
-/
namespace Runbook.Engine

variable {σ : Type}

inductive Answered (b : Backend σ) (Q : Call → Prop) : Entry → Prop
  | log (e : Event) : Answered b Q (.log e)
  | call {c : Call} (made : Q c) (t : Transaction) (s : σ) :
      Answered b Q (.call c t (b.call c s).verdict (b.call c s).emissions)

def FromBackend (b : Backend σ) (Q : Call → Prop) (t : Trace) : Prop := ∀ x ∈ t, Answered b Q x

namespace FromBackend

variable {b : Backend σ} {Q : Call → Prop} {t u : Trace}

theorem append (h : FromBackend b Q t) (h' : FromBackend b Q u) : FromBackend b Q (t ++ u) :=
  List.forall_mem_append.mpr ⟨h, h'⟩

theorem map_log (es : List Event) : FromBackend b Q (es.map .log) := by
  intro x hx
  obtain ⟨e, -, rfl⟩ := List.mem_map.mp hx
  exact .log e

theorem andThen {p : Progress σ} {next : State σ → Progress σ} (h : FromBackend b Q p.trace)
    (h' : ∀ s, FromBackend b Q (next s).trace) : FromBackend b Q (p.andThen next).trace := by
  cases hp : p.failure with
  | some e =>
    rw [Progress.andThen_of_some hp]
    exact h
  | none =>
    rw [Progress.andThen_of_none hp]
    exact h.append (h' p.state)

theorem forEach {α : Type} {f : α → State σ → Progress σ} {l : List α}
    (h : ∀ a ∈ l, ∀ s, FromBackend b Q (f a s).trace) (s : State σ) :
    FromBackend b Q (forEach f l s).trace := by
  induction l generalizing s with
  | nil => exact List.forall_mem_nil _
  | cons a l ih =>
    obtain ⟨first, rest⟩ := List.forall_mem_cons.mp h
    exact (first s).andThen (ih rest)

theorem fail (rollback : Q (.control .rollback)) (d : Directive) (m : Text) (s : State σ) :
    FromBackend b Q (fail b d m s).trace := by
  rw [Engine.fail]
  cases s.transaction with
  | none => exact List.forall_mem_nil _
  | opened =>
    exact List.forall_mem_cons.mpr ⟨.log _, List.forall_mem_singleton.mpr
      (.call rollback .opened s.backend)⟩

theorem step {d : Directive} (made : Q (callFor d)) (rollback : Q (.control .rollback))
    (columns : Nat) (s : State σ) : FromBackend b Q (step b columns d s).trace := by
  have entries : FromBackend b Q [.log (announcement columns d),
      .call (callFor d) s.transaction (b.call (callFor d) s.backend).verdict
        (b.call (callFor d) s.backend).emissions,
      .log (.detail diagnosticLevel (b.call (callFor d) s.backend).verdict.diagnostic.render)] := by
    simp only [FromBackend, List.forall_mem_cons]
    exact ⟨.log _, .call made _ _, .log _, List.forall_mem_nil _⟩
  rw [Engine.step]
  cases refusal? s.transaction d.kind with
  | some e => exact List.forall_mem_nil _
  | none =>
    simp only
    split
    · exact entries
    · exact entries.append (fail rollback d _ _)

theorem runLine {fs : FileSystem} {l : RunFile.NumberedLine}
    (made : ∀ ds, (expand fs l).leaves = .ok ds → ∀ d ∈ ds, Q (callFor d))
    (rollback : Q (.control .rollback)) (columns : Nat) (s : State σ) :
    FromBackend b Q (runLine b fs columns l s).trace := by
  apply (map_log _).append
  cases hl : (expand fs l).leaves with
  | error e => exact List.forall_mem_nil _
  | ok ds => exact forEach (fun d hd => step (made ds hl d hd) rollback columns) s

theorem finish (s : State σ) : FromBackend b Q (finish s).trace := by
  rw [Engine.finish]
  cases s.transaction with
  | none => exact List.forall_mem_singleton.mpr (.log _)
  | opened => exact List.forall_mem_nil _

theorem run {fs : FileSystem} {text : Text}
    (made : ∀ l ∈ RunFile.lines text, ∀ ds, (expand fs l).leaves = .ok ds →
      ∀ d ∈ ds, Q (callFor d))
    (rollback : Q (.control .rollback)) (columns : Nat) (s : State σ) :
    FromBackend b Q (run b fs columns text s).trace :=
  (forEach (fun l hl => runLine (made l hl) rollback columns) s).andThen finish

/-- Where each call leaves one mark, the marks are those of the calls in their order. -/
theorem forall₂ {β : Type} {pick : Emission → Option β} {R : Call → β → Prop}
    (h : FromBackend b Q t) (quiet : ∀ e, pick (.log e) = none)
    (one : ∀ c, Q c → ∃ v, R c v ∧ ∀ s, (b.call c s).emissions.filterMap pick = [v]) :
    List.Forall₂ R (calls t) ((emissions t).filterMap pick) := by
  induction t with
  | nil => exact .nil
  | cons x t ih =>
    obtain ⟨hx, ht⟩ := List.forall_mem_cons.mp h
    cases hx with
    | log e =>
      have hemissions : emissions (.log e :: t) = .log e :: emissions t := rfl
      rw [hemissions, List.filterMap_cons_none (quiet e)]
      exact ih ht
    | @call c made during s =>
      obtain ⟨v, hv, hone⟩ := one c made
      have hemissions : emissions (.call c during (b.call c s).verdict (b.call c s).emissions :: t) =
          (b.call c s).emissions ++ emissions t := rfl
      rw [hemissions, List.filterMap_append, hone s]
      exact .cons hv (ih ht)

end FromBackend

end Runbook.Engine
