import Mathlib.Data.List.Forall2
import Runbook.Proofs.Course

/-! # Runs in lockstep

Of its backend a run sees nothing but which calls are accepted. Two runs of one text over two
backends, whose calls are accepted and rejected alike, make the same calls in the same states and
come to the same end; only what the backends say may differ.
-/
namespace Runbook

inductive RunError.Alike : RunError → RunError → Prop
  | same (e : RunError) : Alike e e
  | backend (directive m m' : Text) : Alike (.backend directive m) (.backend directive m')
  | rollback (directive m second m' second' : Text) :
      Alike (.rollback directive m second) (.rollback directive m' second')

namespace Engine

variable {σ τ α : Type}

structure Exchange.Alike (x y : Exchange) : Prop where
  call : x.call = y.call
  during : x.during = y.during
  success : x.verdict.success = y.verdict.success

/-- As long as there are calls on both sides, they are accepted and rejected alike. -/
def Agree (xs ys : List Exchange) : Prop :=
  ∀ p ∈ xs.zip ys, p.1.verdict.success = p.2.verdict.success

namespace Agree

variable {xs ys xs' ys' : List Exchange} {x y : Exchange}

theorem head (h : Agree (x :: xs) (y :: ys)) : x.verdict.success = y.verdict.success :=
  (List.forall_mem_cons.mp h).1

theorem tail (h : Agree (x :: xs) (y :: ys)) : Agree xs ys := (List.forall_mem_cons.mp h).2

theorem left (h : Agree (xs ++ xs') (ys ++ ys')) : Agree xs ys := by
  induction xs generalizing ys with
  | nil =>
    intro p hp
    cases hp
  | cons x xs ih =>
    cases ys with
    | nil =>
      intro p hp
      cases hp
    | cons y ys => exact List.forall_mem_cons.mpr ⟨h.head, ih h.tail⟩

theorem right (h : Agree (xs ++ xs') (ys ++ ys')) (even : xs.length = ys.length) :
    Agree xs' ys' := by
  intro p hp
  apply h
  rw [List.zip_append even]
  exact List.mem_append_right _ hp

end Agree

structure Lockstep (p : Progress σ) (q : Progress τ) : Prop where
  failure : Option.Rel RunError.Alike p.failure q.failure
  transaction : p.state.transaction = q.state.transaction
  executed : p.state.executed = q.state.executed
  exchanges : List.Forall₂ Exchange.Alike (exchanges p.trace) (exchanges q.trace)

/-- Engines that are equally far come to the same if their calls are accepted and rejected
alike. -/
def InLockstep (f : State σ → Progress σ) (g : State τ → Progress τ) : Prop :=
  ∀ s t, s.transaction = t.transaction → s.executed = t.executed →
    Agree (exchanges (f s).trace) (exchanges (g t).trace) → Lockstep (f s) (g t)

/-- A directive that stops both engines stops them in the same way. -/
theorem Stops.alike {b : Backend σ} {c : Backend τ} {d : Directive} {s s' : State σ}
    {t t' : State τ} {e e' : RunError} {xs ys : List Exchange} (h : Stops b d s e xs s')
    (h' : Stops c d t e' ys t') (ht : s.transaction = t.transaction)
    (hn : s.executed = t.executed) (agree : Agree xs ys) :
    e.Alike e' ∧ s'.transaction = t'.transaction ∧ s'.executed = t'.executed ∧
      List.Forall₂ Exchange.Alike xs ys := by
  cases h with
  | refused refusal =>
    rw [ht] at refusal
    cases h' with
    | refused refusal' =>
      obtain rfl := Option.some.inj (refusal.symm.trans refusal')
      exact ⟨.same e, ht, hn, .nil⟩
    | rejected allowed _ _ | rolledBack allowed _ _ =>
      rw [allowed] at refusal
      cases refusal
  | rejected allowed _ closed =>
    rw [ht] at allowed closed
    cases h' with
    | refused refusal =>
      rw [allowed] at refusal
      cases refusal
    | rejected _ _ _ => exact ⟨.backend _ _ _, ht, hn, .cons ⟨rfl, ht, agree.head⟩ .nil⟩
    | rolledBack _ _ opened =>
      rw [closed] at opened
      cases opened
  | rolledBack allowed _ opened =>
    rw [ht] at allowed opened
    cases h' with
    | refused refusal =>
      rw [allowed] at refusal
      cases refusal
    | rejected _ _ closed =>
      rw [closed] at opened
      cases opened
    | rolledBack _ _ _ =>
      have hsecond := agree.tail.head
      refine ⟨?_, rfl, hn, .cons ⟨rfl, ht, agree.head⟩ (.cons ⟨rfl, rfl, hsecond⟩ .nil)⟩
      simp only at hsecond
      rw [rollbackError, rollbackError, hsecond]
      split
      · exact .backend _ _ _
      · exact .rollback _ _ _ _ _

theorem exchanges_step (b : Backend σ) (columns : Nat) {d : Directive} {s : State σ}
    (allowed : refusal? s.transaction d.kind = none) :
    ∃ xs, exchanges (step b columns d s).trace = exchangeFor b d s :: xs := by
  simp only [step, allowed]
  split
  · exact ⟨[], rfl⟩
  · rw [exchanges_after]
    exact ⟨_, rfl⟩

theorem step_inLockstep (b : Backend σ) (c : Backend τ) (columns : Nat) (d : Directive) :
    InLockstep (step b columns d) (step c columns d) := by
  intro s t ht hn agree
  cases hr : refusal? t.transaction d.kind with
  | some e =>
    have hr' : refusal? s.transaction d.kind = some e := by rw [ht, hr]
    rw [step_of_refusal columns hr, step_of_refusal columns hr']
    exact ⟨.some (.same e), ht, hn, .nil⟩
  | none =>
    have hr' : refusal? s.transaction d.kind = none := by rw [ht, hr]
    obtain ⟨xs, hxs⟩ := exchanges_step b columns hr'
    obtain ⟨ys, hys⟩ := exchanges_step c columns hr
    have hv : (exchangeFor b d s).verdict.success = (exchangeFor c d t).verdict.success := by
      rw [hxs, hys] at agree
      exact agree.head
    cases hv' : (exchangeFor c d t).verdict.success with
    | true =>
      obtain ⟨hf, hs, hx⟩ := step_of_success columns hr' (hv.trans hv')
      obtain ⟨hf', hs', hx'⟩ := step_of_success columns hr hv'
      refine ⟨?_, ?_, ?_, ?_⟩
      · rw [hf, hf']
        exact .none
      · rw [hs, hs']
        exact congrArg (Transaction.next · d.kind) ht
      · rw [hs, hs']
        exact congrArg (· + 1) hn
      · rw [hx, hx']
        exact .cons ⟨rfl, ht, hv⟩ .nil
    | false =>
      obtain ⟨e, hf, stops⟩ := step_of_rejection columns hr' (hv.trans hv')
      obtain ⟨e', hf', stops'⟩ := step_of_rejection columns hr hv'
      obtain ⟨error, transaction, executed, same⟩ := stops.alike stops' ht hn agree
      refine ⟨?_, transaction, executed, same⟩
      rw [hf, hf']
      exact .some error

theorem exchanges_andThen (p : Progress σ) (next : State σ → Progress σ) :
    ∃ more, exchanges (p.andThen next).trace = exchanges p.trace ++ more := by
  cases hp : p.failure with
  | none =>
    rw [Progress.andThen_of_none hp, exchanges_after]
    exact ⟨_, rfl⟩
  | some e =>
    rw [Progress.andThen_of_some hp]
    exact ⟨[], (List.append_nil _).symm⟩

theorem Lockstep.andThen {p : Progress σ} {q : Progress τ} {f : State σ → Progress σ}
    {g : State τ → Progress τ}
    (first : Agree (Engine.exchanges p.trace) (Engine.exchanges q.trace) → Lockstep p q)
    (next : InLockstep f g)
    (agree : Agree (Engine.exchanges (p.andThen f).trace) (Engine.exchanges (q.andThen g).trace)) :
    Lockstep (p.andThen f) (q.andThen g) := by
  obtain ⟨failure, transaction, executed, same⟩ : Lockstep p q := by
    -- Whatever comes after, the two first parts agree.
    obtain ⟨more, hmore⟩ := exchanges_andThen p f
    obtain ⟨more', hmore'⟩ := exchanges_andThen q g
    rw [hmore, hmore'] at agree
    exact first agree.left
  cases hp : p.failure with
  | some e =>
    cases hq : q.failure with
    | some e' =>
      rw [Progress.andThen_of_some hp, Progress.andThen_of_some hq]
      exact ⟨failure, transaction, executed, same⟩
    | none =>
      rw [hp, hq] at failure
      cases failure
  | none =>
    cases hq : q.failure with
    | some e' =>
      rw [hp, hq] at failure
      cases failure
    | none =>
      rw [Progress.andThen_of_none hp, Progress.andThen_of_none hq] at agree ⊢
      rw [exchanges_after, exchanges_after] at agree
      have h := next _ _ transaction executed (agree.right same.length_eq)
      refine ⟨h.failure, h.transaction, h.executed, ?_⟩
      rw [exchanges_after, exchanges_after]
      exact List.rel_append same h.exchanges

namespace InLockstep

variable {f f' : State σ → Progress σ} {g g' : State τ → Progress τ}

theorem andThen (first : InLockstep f g) (next : InLockstep f' g') :
    InLockstep (fun s => (f s).andThen f') (fun t => (g t).andThen g') := by
  intro s t ht hn agree
  exact Lockstep.andThen (first s t ht hn) next agree

theorem after_logs (h : InLockstep f g) (es : List Event) :
    InLockstep (fun s => (f s).after (es.map .log)) (fun t => (g t).after (es.map .log)) := by
  intro s t ht hn agree
  rw [exchanges_after, exchanges_after, exchanges_map_log] at agree
  obtain ⟨failure, transaction, executed, same⟩ := h s t ht hn agree
  refine ⟨failure, transaction, executed, ?_⟩
  rw [exchanges_after, exchanges_after, exchanges_map_log]
  exact same

theorem forEach {h : α → State σ → Progress σ} {k : α → State τ → Progress τ}
    (one : ∀ a, InLockstep (h a) (k a)) (l : List α) :
    InLockstep (forEach h l) (forEach k l) := by
  induction l with
  | nil =>
    intro s t ht hn _
    exact ⟨.none, ht, hn, .nil⟩
  | cons a l ih => exact (one a).andThen ih

end InLockstep

theorem runLine_inLockstep (b : Backend σ) (c : Backend τ) (fs : FileSystem) (columns : Nat)
    (l : RunFile.NumberedLine) : InLockstep (runLine b fs columns l) (runLine c fs columns l) := by
  unfold runLine
  apply InLockstep.after_logs
  cases (expand fs l).leaves with
  | error e =>
    intro s t ht hn _
    exact ⟨.some (.same e), ht, hn, .nil⟩
  | ok ds => exact InLockstep.forEach (step_inLockstep b c columns) ds

theorem finish_inLockstep :
    InLockstep (finish : State σ → Progress σ) (finish : State τ → Progress τ) := by
  intro s t ht hn _
  refine ⟨?_, ?_, ?_, ?_⟩
  · rw [finish, finish, ht]
    cases t.transaction with
    | none => exact .none
    | opened => exact .some (.same _)
  · rw [finish_state, finish_state, ht]
  · rw [finish_state, finish_state, hn]
  · rw [exchanges_finish, exchanges_finish]
    exact .nil

theorem run_inLockstep (b : Backend σ) (c : Backend τ) (fs : FileSystem) (columns : Nat)
    (text : Text) : InLockstep (run b fs columns text) (run c fs columns text) :=
  (InLockstep.forEach (runLine_inLockstep b c fs columns) _).andThen finish_inLockstep

end Engine

end Runbook
