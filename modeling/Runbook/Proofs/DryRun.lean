import Runbook.Backend.DryRun
import Runbook.Proofs.FailureClasses

/-! # Dry runs foretell runs

A dry run and a run of the same text go abreast as long as the backend of the run accepts what it is
sent. When it rejects a call the run ends, and the dry run goes on: what the run has sent by then is
the beginning of what the dry run sends. So a run over a backend that accepts everything comes to
what the dry run came to, and no run sends anything that its dry run did not.
-/
namespace Runbook

def RunError.IsRejection : RunError → Prop
  | .backend .. | .rollback .. => True
  | _ => False

def Call.isRollback : Call → Bool
  | .control .rollback => true
  | _ => false

namespace Engine

variable {σ α : Type}

def calls (t : Trace) : List Call := (exchanges t).map Exchange.call

theorem calls_append (t u : Trace) : calls (t ++ u) = calls t ++ calls u := by
  rw [calls, exchanges_append, List.map_append]
  rfl

theorem calls_after (first : Trace) (p : Progress σ) :
    calls (p.after first).trace = calls first ++ calls p.trace :=
  calls_append first p.trace

theorem isRollback_callFor (d : Directive) : (callFor d).isRollback = false := by
  cases h : d.kind <;> simp [callFor, h, Call.isRollback]

theorem filter_map_callFor (ds : List Directive) :
    (ds.map callFor).filter (fun c => !c.isRollback) = ds.map callFor := by
  rw [List.filter_eq_self]
  intro c hc
  obtain ⟨d, -, rfl⟩ := List.mem_map.mp hc
  rw [isRollback_callFor, Bool.not_false]

/-- A failed call comes first in its aftermath, and nothing but a rollback follows it. -/
theorem Aftermath.calls {d : Directive} {v : Verdict} {t : Transaction} {ys : List Exchange}
    {e : RunError} (h : Aftermath d v t ys e) :
    ⟨callFor d, t, v⟩ ∈ ys ∧
      (ys.map Exchange.call).filter (fun c => !c.isRollback) = [callFor d] := by
  have hd : (callFor d).isRollback = false := isRollback_callFor d
  have hr : (Call.control .rollback).isRollback = true := rfl
  cases h with
  | rejected => exact ⟨List.mem_cons_self, by simp [hd]⟩
  | rolledBack => exact ⟨List.mem_cons_self, by simp [hd, hr]⟩
  | rollbackFailed => exact ⟨List.mem_cons_self, by simp [hd, hr]⟩

theorem Stops.aftermath {b : Backend σ} {d : Directive} {s s' : State σ} {e : RunError}
    {ys : List Exchange} (h : Stops b d s e ys s')
    (allowed : refusal? s.transaction d.kind = none) :
    Aftermath d (exchangeFor b d s).verdict s.transaction ys e := by
  obtain ⟨x, t, n⟩ := s
  cases h with
  | refused refusal =>
    rw [allowed] at refusal
    cases refusal
  | rejected _ _ closed =>
    subst closed
    exact .rejected
  | rolledBack _ _ opened =>
    subst opened
    rw [rollbackError]
    split
    · exact .rolledBack ‹_›
    · exact .rollbackFailed (Bool.eq_false_iff.mpr ‹_›)

/-- A run ended with the failure of a call. That call is among the foreseen ones, and before it the
run made the calls that stand there before it. -/
inductive EndsAtRejection (foreseen : List Call) (p : Progress σ) : Prop
  | intro (ds : List Directive) (after : List Call) (xs : List Exchange) {d : Directive}
      {v : Verdict} {t : Transaction} {ys : List Exchange} {e : RunError}
      (foreseen : foreseen = ds.map callFor ++ callFor d :: after)
      (exchanges : exchanges p.trace = xs ++ ys) (sent : xs.map Exchange.call = ds.map callFor)
      (accepted : ∀ x ∈ xs, x.verdict.success = true) (rejection : v.success = false)
      (aftermath : Aftermath d v t ys e) (failure : p.failure = some e)

namespace EndsAtRejection

variable {foreseen : List Call} {p : Progress σ}

theorem exists_rejected (h : EndsAtRejection foreseen p) :
    ∃ x ∈ exchanges p.trace, x.verdict.success = false := by
  obtain @⟨ds, after, xs, d, v, t, ys, e, -, hx, -, -, rejection, aftermath, -⟩ := h
  refine ⟨⟨callFor d, t, v⟩, ?_, rejection⟩
  rw [hx]
  exact List.mem_append_right xs aftermath.calls.1

theorem exists_failure (h : EndsAtRejection foreseen p) :
    ∃ e, p.failure = some e ∧ e.IsRejection := by
  obtain ⟨-, -, -, -, -, -, -, -, aftermath, failure⟩ := h
  refine ⟨_, failure, ?_⟩
  cases aftermath <;> trivial

theorem requests_prefix (h : EndsAtRejection foreseen p) :
    (calls p.trace).filter (fun c => !c.isRollback) <+: foreseen := by
  obtain ⟨ds, after, xs, hforeseen, hx, hsent, -, -, aftermath, -⟩ := h
  refine ⟨after, ?_⟩
  rw [calls, hx, List.map_append, List.filter_append, hsent, filter_map_callFor,
    aftermath.calls.2, hforeseen, List.append_assoc, List.singleton_append]

theorem extend (h : EndsAtRejection foreseen p) (more : List Call) :
    EndsAtRejection (foreseen ++ more) p := by
  obtain ⟨ds, after, xs, hforeseen, hx, hsent, haccepted, rejection, aftermath, failure⟩ := h
  refine .intro ds (after ++ more) xs ?_ hx hsent haccepted rejection aftermath failure
  rw [hforeseen, List.append_assoc, List.cons_append]

theorem prepend (h : EndsAtRejection foreseen p) {first : Trace} {cs : List Directive}
    (sent : calls first = cs.map callFor)
    (accepted : ∀ x ∈ exchanges first, x.verdict.success = true) :
    EndsAtRejection (calls first ++ foreseen) (p.after first) := by
  obtain ⟨ds, after, xs, hforeseen, hx, hsent, haccepted, rejection, aftermath, failure⟩ := h
  refine .intro (cs ++ ds) after (exchanges first ++ xs) ?_ ?_ ?_ ?_ rejection aftermath failure
  · rw [hforeseen, sent, List.map_append, List.append_assoc]
  · rw [exchanges_after, hx, List.append_assoc]
  · rw [List.map_append, List.map_append, hsent, ← sent]
    rfl
  · intro x hmem
    rcases List.mem_append.mp hmem with hmem | hmem
    · exact accepted x hmem
    · exact haccepted x hmem

end EndsAtRejection

/-- Two engines, whatever their backends, have come equally far. -/
structure Abreast (s : State Nat) (t : State σ) : Prop where
  transaction : s.transaction = t.transaction
  executed : s.executed = t.executed

/-- What a dry run came to foretells what a run came to: the same, unless the backend of the run
rejected a call. -/
inductive Foretells (q : Progress Nat) (p : Progress σ) : Prop
  | alike (ds : List Directive) (failure : q.failure = p.failure)
      (abreast : Abreast q.state p.state) (same : calls q.trace = calls p.trace)
      (sent : calls p.trace = ds.map callFor)
      (accepted : ∀ x ∈ exchanges p.trace, x.verdict.success = true)
  | rejected (ends : EndsAtRejection (calls q.trace) p)

theorem dryRun_accepts (d : Directive) (s : State Nat) :
    (exchangeFor Backend.dryRun d s).verdict.success = true := by
  cases h : d.kind <;> simp [exchangeFor, callFor, h] <;> rfl

/-- One directive: both refuse it, both get it accepted, or the run has it rejected. -/
theorem step_foretells (b : Backend σ) (columns : Nat) (d : Directive) {s : State Nat} {t : State σ}
    (abreast : Abreast s t) :
    Foretells (step Backend.dryRun columns d s) (step b columns d t) := by
  cases hr : refusal? t.transaction d.kind with
  | some e =>
    have hr' : refusal? s.transaction d.kind = some e := by rw [abreast.transaction, hr]
    rw [step_of_refusal columns hr, step_of_refusal columns hr']
    refine .alike [] rfl abreast rfl rfl ?_
    intro x hx
    cases hx
  | none =>
    have hr' : refusal? s.transaction d.kind = none := by rw [abreast.transaction, hr]
    obtain ⟨hf', hs', hx'⟩ := step_of_success columns hr' (dryRun_accepts d s)
    have hcalls' : calls (step Backend.dryRun columns d s).trace = [callFor d] := by
      rw [calls, hx']
      rfl
    cases hv : (exchangeFor b d t).verdict.success with
    | true =>
      obtain ⟨hf, hs, hx⟩ := step_of_success columns hr hv
      have hcalls : calls (step b columns d t).trace = [callFor d] := by
        rw [calls, hx]
        rfl
      refine .alike [d] (hf'.trans hf.symm) ?_ (hcalls'.trans hcalls.symm) hcalls ?_
      · rw [hs, hs']
        exact ⟨congrArg (Transaction.next · d.kind) abreast.transaction,
          congrArg (· + 1) abreast.executed⟩
      · intro x hmem
        rw [hx] at hmem
        rw [List.mem_singleton.mp hmem]
        exact hv
    | false =>
      obtain ⟨e, hf, stops⟩ := step_of_rejection columns hr hv
      refine .rejected (.intro [] [] [] hcalls' rfl rfl ?_ hv (stops.aftermath hr) hf)
      intro x hx
      cases hx

namespace Foretells

theorem after_logs {q : Progress Nat} {p : Progress σ} (h : Foretells q p) (es : List Event) :
    Foretells (q.after (es.map .log)) (p.after (es.map .log)) := by
  have hlogs : calls (es.map Entry.log) = [] := by
    rw [calls, exchanges_map_log]
    rfl
  cases h with
  | alike ds failure abreast same sent accepted =>
    refine .alike ds failure abreast ?_ ?_ ?_
    · rw [calls_after, calls_after, same]
    · rw [calls_after, hlogs, List.nil_append, sent]
    · rwa [exchanges_after, exchanges_map_log, List.nil_append]
  | rejected ends =>
    refine .rejected ?_
    rw [calls_after]
    refine ends.prepend (hlogs.trans List.map_nil.symm) ?_
    rw [exchanges_map_log]
    intro x hx
    cases hx

/-- One part after the other. After a rejection the dry run goes on alone. -/
theorem andThen {q : Progress Nat} {p : Progress σ} {g : State Nat → Progress Nat}
    {f : State σ → Progress σ} (h : Foretells q p)
    (next : ∀ s t, Abreast s t → Foretells (g s) (f t)) :
    Foretells (q.andThen g) (p.andThen f) := by
  cases h with
  | alike ds failure abreast same sent accepted =>
    cases hf : p.failure with
    | some e =>
      rw [Progress.andThen_of_some hf, Progress.andThen_of_some (failure.trans hf)]
      exact .alike ds failure abreast same sent accepted
    | none =>
      rw [Progress.andThen_of_none hf, Progress.andThen_of_none (failure.trans hf)]
      cases next q.state p.state abreast with
      | alike es failure' abreast' same' sent' accepted' =>
        refine .alike (ds ++ es) failure' abreast' ?_ ?_ ?_
        · rw [calls_after, calls_after, same, same']
        · rw [calls_after, sent, sent', List.map_append]
        · intro x hx
          rw [exchanges_after] at hx
          rcases List.mem_append.mp hx with hx | hx
          · exact accepted x hx
          · exact accepted' x hx
      | rejected ends =>
        refine .rejected ?_
        rw [calls_after, same]
        exact ends.prepend sent accepted
  | rejected ends =>
    -- The run is over. The dry run may go on, and what it sends then only extends what it foresaw.
    obtain ⟨e, failure, -⟩ := ends.exists_failure
    rw [Progress.andThen_of_some failure]
    refine .rejected ?_
    cases hf : q.failure with
    | some e' =>
      rw [Progress.andThen_of_some hf]
      exact ends
    | none =>
      rw [Progress.andThen_of_none hf, calls_after]
      exact ends.extend (calls (g q.state).trace)

end Foretells

theorem forEach_foretells {g : α → State Nat → Progress Nat} {f : α → State σ → Progress σ}
    (one : ∀ a s t, Abreast s t → Foretells (g a s) (f a t)) (l : List α) {s : State Nat}
    {t : State σ} (abreast : Abreast s t) : Foretells (forEach g l s) (forEach f l t) := by
  induction l generalizing s t with
  | nil =>
    refine .alike [] rfl abreast rfl rfl ?_
    intro x hx
    cases hx
  | cons a l ih => exact (one a s t abreast).andThen fun s' t' h => ih h

theorem runLine_foretells (b : Backend σ) (fs : FileSystem) (columns : Nat)
    (l : RunFile.NumberedLine) {s : State Nat} {t : State σ} (abreast : Abreast s t) :
    Foretells (runLine Backend.dryRun fs columns l s) (runLine b fs columns l t) := by
  simp only [runLine]
  refine Foretells.after_logs ?_ _
  cases (expand fs l).leaves with
  | error e =>
    refine .alike [] rfl abreast rfl rfl ?_
    intro x hx
    cases hx
  | ok ds =>
    exact forEach_foretells (fun d _ _ h => step_foretells b columns d h) ds abreast

theorem finish_foretells {s : State Nat} {t : State σ} (abreast : Abreast s t) :
    Foretells (finish s) (finish t) := by
  have hx : exchanges (finish t).trace = [] := exchanges_finish t
  have hc : calls (finish t).trace = [] := congrArg (List.map Exchange.call) hx
  have hc' : calls (finish s).trace = [] := congrArg (List.map Exchange.call) (exchanges_finish s)
  refine .alike [] ?_ ?_ (hc'.trans hc.symm) hc ?_
  · simp only [finish, abreast.transaction]
    cases t.transaction <;> rfl
  · rw [finish_state, finish_state]
    exact abreast
  · rw [hx]
    intro x hmem
    cases hmem

theorem run_foretells (b : Backend σ) (fs : FileSystem) (columns : Nat) (text : Text)
    {s : State Nat} {t : State σ} (abreast : Abreast s t) :
    Foretells (run Backend.dryRun fs columns text s) (run b fs columns text t) :=
  (forEach_foretells (fun l _ _ h => runLine_foretells b fs columns l h) _ abreast).andThen
    fun _ _ h => finish_foretells h

theorem not_isRejection_of_isOfLine {e : RunError} (line : e.IsOfLine) : ¬ e.IsRejection := by
  cases e with
  | parse | fileNotFound | io => exact id
  | configuration | backend | rollback | connect | settings => cases line

/-- A directive that ends a dry run is a misplaced marker. -/
theorem Stops.dryRun {d : Directive} {s s' : State Nat} {e : RunError} {ys : List Exchange}
    (h : Stops Backend.dryRun d s e ys s') : ¬ e.IsRejection ∧ s' = s := by
  have accepted : (exchangeFor Backend.dryRun d s).verdict.success ≠ false := by
    rw [dryRun_accepts]
    decide
  cases h with
  | refused refusal =>
    obtain ⟨-, message, rfl⟩ := refusal?_eq_some refusal
    exact ⟨id, rfl⟩
  | rejected _ rejection _ => exact absurd rejection accepted
  | rolledBack _ rejection _ => exact absurd rejection accepted

theorem Accepts.dryRun {s s' : State Nat} {ds : List Directive} {xs : List Exchange}
    (h : Accepts Backend.dryRun s ds xs s') : s'.backend = s.backend + ds.length := by
  induction h with
  | nil => rfl
  | @cons s s' d rest xs _ _ _ ih =>
    have hone : (s.accept Backend.dryRun d).backend = s.backend + 1 := by
      cases h : d.kind <;> simp [State.accept, callFor, h] <;> rfl
    rw [ih, hone, List.length_cons]
    omega

/-- No dry run has a call rejected, and its backend has counted what the engine counts. -/
theorem dryRun_cases (fs : FileSystem) (columns : Nat) (text : Text) (s : State Nat) :
    let q := run Backend.dryRun fs columns text s
    (∀ e, q.failure = some e → ¬ e.IsRejection) ∧
      q.state.backend + s.executed = q.state.executed + s.backend := by
  have count : ∀ {ds xs s'}, Accepts Backend.dryRun s ds xs s' →
      s'.backend + s.executed = s'.executed + s.backend := by
    intro ds xs s' sent
    have hb := sent.dryRun
    have hn := sent.executed
    omega
  intro q
  rcases run_cases Backend.dryRun fs columns text s with ⟨ds, -, sent, failure⟩ | ⟨e, hf, ending⟩
  · refine ⟨fun e he => ?_, count sent⟩
    obtain ⟨-, message, rfl⟩ := finish_failure_eq_some (failure.symm.trans he)
    exact id
  · have he : ∀ e', q.failure = some e' → e' = e := fun e' h =>
      Option.some.inj (h.symm.trans hf)
    cases ending with
    | unreadable _ _ bad sent =>
      refine ⟨fun e' h => ?_, count sent⟩
      rw [he e' h]
      exact not_isRejection_of_isOfLine bad.isOfLine
    | stopped _ _ sent stops _ =>
      obtain ⟨hr, hs⟩ := stops.dryRun
      refine ⟨fun e' h => he e' h ▸ hr, ?_⟩
      exact hs ▸ count sent

/-- A dry run by a new engine foretells the run by a new engine over any backend: it has no call
rejected; it sends all that the run sends; if the backend accepts every call, both come to the same;
if it rejects one, the run ends there, at a call that the dry run sends too. -/
theorem dryRun_foretells_run (b : Backend σ) (fs : FileSystem) (columns : Nat) (text : Text)
    (backend : σ) :
    let dry := run Backend.dryRun fs columns text (.fresh 0)
    let real := run b fs columns text (.fresh backend)
    (∀ e, dry.failure = some e → ¬ e.IsRejection) ∧
      (calls real.trace).filter (fun c => !c.isRollback) <+: calls dry.trace ∧
      ((∀ x ∈ exchanges real.trace, x.verdict.success = true) →
        real.failure = dry.failure ∧ real.state.executed = dry.state.executed ∧
          real.state.transaction = dry.state.transaction) ∧
      ((∃ x ∈ exchanges real.trace, x.verdict.success = false) →
        (∃ e, real.failure = some e ∧ e.IsRejection) ∧
          EndsAtRejection (calls dry.trace) real) ∧
      dry.state.backend = dry.state.executed := by
  intro dry real
  obtain ⟨noRejection, counted⟩ := dryRun_cases fs columns text (.fresh 0)
  have h : Foretells dry real := run_foretells b fs columns text ⟨rfl, rfl⟩
  refine ⟨noRejection, ?_, ?_, ?_, counted⟩
  · cases h with
    | alike ds _ _ same sent _ =>
      have hall : (calls real.trace).filter (fun c => !c.isRollback) = calls dry.trace := by
        rw [same, sent, filter_map_callFor]
      exact hall ▸ List.prefix_rfl
    | rejected ends => exact ends.requests_prefix
  · intro accepted
    cases h with
    | alike _ failure abreast _ _ _ =>
      exact ⟨failure.symm, abreast.executed.symm, abreast.transaction.symm⟩
    | rejected ends =>
      obtain ⟨x, hx, rejection⟩ := ends.exists_rejected
      rw [accepted x hx] at rejection
      cases rejection
  · rintro ⟨x, hx, rejection⟩
    cases h with
    | alike _ _ _ _ _ accepted =>
      rw [accepted x hx] at rejection
      cases rejection
    | rejected ends => exact ⟨ends.exists_failure, ends⟩

/-- The second statement in a transaction is rejected: its rollback is all that was not foreseen. -/
theorem dryRun_foretells_rejection :
    let text := "SQL/TRANSACTION: \nSQL: a\n-- b\nSQL: b\nSQL/COMMIT: \n".toList
    let dry := run Backend.dryRun Virtual.empty.fileSystem 80 text (.fresh 0)
    let real := run Backend.recorder Virtual.empty.fileSystem 80 text (.fresh ⟨["b".toList], []⟩)
    dry.failure = none ∧ (calls dry.trace).length = 4 ∧ (calls real.trace).length = 4 ∧
      (calls real.trace).filter (fun c => !c.isRollback) <+: calls dry.trace ∧
      EndsAtRejection (calls dry.trace) real := by
  intro text dry real
  obtain ⟨-, sent, -, rejected, -⟩ :=
    dryRun_foretells_run Backend.recorder Virtual.empty.fileSystem 80 text ⟨["b".toList], []⟩
  exact ⟨by decide, by decide, by decide, sent, (rejected (by decide)).2⟩

end Engine

end Runbook
