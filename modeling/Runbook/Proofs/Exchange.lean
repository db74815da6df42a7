import Runbook.Engine

/-! # Exchanges with a backend

A trace shows which calls were made, whether a transaction was open at each, and how they were
answered. Sending directives goes on while every one is accepted, and a directive that is not says
how it ends: it is refused without a call, or rejected, with a rollback when a transaction is open.
-/
namespace Runbook

def Transaction.after (t : Transaction) (ds : List Directive) : Transaction :=
  ds.foldl (fun t d => t.next d.kind) t

namespace Engine

variable {σ : Type}

theorem callFor_eq_start_iff (d : Directive) :
    callFor d = .control .start ↔ d.kind = .openTransaction := by
  cases h : d.kind <;> simp [callFor, h]

theorem callFor_eq_commit_iff (d : Directive) :
    callFor d = .control .commit ↔ d.kind = .commit := by
  cases h : d.kind <;> simp [callFor, h]

theorem callFor_ne_rollback (d : Directive) : callFor d ≠ .control .rollback := by
  cases h : d.kind <;> simp [callFor, h]

structure Exchange where
  call : Call
  during : Transaction
  verdict : Verdict

def exchange? : Entry → Option Exchange
  | .log _ => none
  | .call c t v _ => some ⟨c, t, v⟩

def exchanges (t : Trace) : List Exchange := t.filterMap exchange?

@[simp] theorem exchanges_append (t u : Trace) :
    exchanges (t ++ u) = exchanges t ++ exchanges u := List.filterMap_append

@[simp] theorem exchanges_map_log (es : List Event) : exchanges (es.map .log) = [] := by
  induction es with
  | nil => rfl
  | cons e es ih => exact ih

@[simp] theorem exchanges_after (first : Trace) (p : Progress σ) :
    exchanges (p.after first).trace = exchanges first ++ exchanges p.trace :=
  exchanges_append first p.trace

def exchangeFor (b : Backend σ) (d : Directive) (s : State σ) : Exchange :=
  ⟨callFor d, s.transaction, (b.call (callFor d) s.backend).verdict⟩

def State.accept (s : State σ) (b : Backend σ) (d : Directive) : State σ :=
  ⟨(b.call (callFor d) s.backend).state, s.transaction.next d.kind, s.executed + 1⟩

def State.reject (s : State σ) (b : Backend σ) (d : Directive) : State σ :=
  { s with backend := (b.call (callFor d) s.backend).state }

/-- From one state to another, all these directives are sent and accepted, in these exchanges. -/
inductive Accepts (b : Backend σ) : State σ → List Directive → List Exchange → State σ → Prop
  | nil (s : State σ) : Accepts b s [] [] s
  | cons {s s' : State σ} {d : Directive} {rest : List Directive} {xs : List Exchange}
      (allowed : refusal? s.transaction d.kind = none)
      (success : (exchangeFor b d s).verdict.success = true)
      (more : Accepts b (s.accept b d) rest xs s') :
      Accepts b s (d :: rest) (exchangeFor b d s :: xs) s'

namespace Accepts

variable {b : Backend σ} {s s' s'' : State σ} {ds es : List Directive} {xs ys : List Exchange}

theorem append (h : Accepts b s ds xs s') (h' : Accepts b s' es ys s'') :
    Accepts b s (ds ++ es) (xs ++ ys) s'' := by
  induction h with
  | nil => exact h'
  | cons allowed success _ ih => exact .cons allowed success (ih h')

theorem calls (h : Accepts b s ds xs s') : xs.map Exchange.call = ds.map callFor := by
  induction h with
  | nil => rfl
  | cons _ _ _ ih => exact congrArg (_ :: ·) ih

theorem success (h : Accepts b s ds xs s') : ∀ x ∈ xs, x.verdict.success = true := by
  induction h with
  | nil => intro x hx; cases hx
  | cons _ success _ ih =>
    intro x hx
    rcases List.mem_cons.mp hx with rfl | hx
    · exact success
    · exact ih x hx

theorem transaction (h : Accepts b s ds xs s') :
    s'.transaction = s.transaction.after ds := by
  induction h with
  | nil => rfl
  | cons _ _ _ ih => exact ih

theorem executed (h : Accepts b s ds xs s') : s'.executed = s.executed + ds.length := by
  induction h with
  | nil => rfl
  | cons _ _ _ ih =>
    rw [ih, List.length_cons]
    simp only [State.accept]
    omega

/-- What is accepted begins with what was accepted of its beginning. -/
theorem split (h : Accepts b s (ds ++ es) xs s'') (h' : Accepts b s ds ys s') :
    ∃ zs, Accepts b s' es zs s'' ∧ xs = ys ++ zs := by
  induction h' generalizing xs with
  | nil => exact ⟨xs, h, rfl⟩
  | cons _ _ _ ih =>
    cases h with
    | cons _ _ more =>
      obtain ⟨zs, hzs, rfl⟩ := ih more
      exact ⟨zs, hzs, rfl⟩

end Accepts

/-- Exactly these directives were sent from a state on, and all of them were accepted. -/
structure Sent (s : State σ) (ds : List Directive) (p : Progress σ) : Prop where
  calls : (exchanges p.trace).map Exchange.call = ds.map callFor
  accepted : ∀ x ∈ exchanges p.trace, x.verdict.success = true
  transaction : p.state.transaction = s.transaction.after ds
  executed : p.state.executed = s.executed + ds.length

theorem Accepts.sent {b : Backend σ} {s : State σ} {ds : List Directive} {p : Progress σ}
    (h : Accepts b s ds (exchanges p.trace) p.state) : Sent s ds p :=
  ⟨h.calls, h.success, h.transaction, h.executed⟩

def rollbackAnswer (b : Backend σ) (d : Directive) (s : State σ) : Answer σ :=
  b.transaction .rollback (s.reject b d).backend

def rollbackError (d : Directive) (first second : Verdict) : RunError :=
  if second.success then .backend d.describe first.message
  else .rollback d.describe first.message second.message

/-- How a directive that is not accepted ends the run: the error, the exchanges from this directive
on, and the state that is left. -/
inductive Stops (b : Backend σ) (d : Directive) (s : State σ) :
    RunError → List Exchange → State σ → Prop
  | refused {e : RunError} (refusal : refusal? s.transaction d.kind = some e) : Stops b d s e [] s
  | rejected (allowed : refusal? s.transaction d.kind = none)
      (rejection : (exchangeFor b d s).verdict.success = false) (closed : s.transaction = .none) :
      Stops b d s (.backend d.describe (exchangeFor b d s).verdict.message) [exchangeFor b d s]
        (s.reject b d)
  | rolledBack (allowed : refusal? s.transaction d.kind = none)
      (rejection : (exchangeFor b d s).verdict.success = false) (opened : s.transaction = .opened) :
      Stops b d s
        (rollbackError d (exchangeFor b d s).verdict (rollbackAnswer b d s).verdict)
        [exchangeFor b d s, ⟨.control .rollback, .opened, (rollbackAnswer b d s).verdict⟩]
        ⟨(rollbackAnswer b d s).state, .none, s.executed⟩

/-- What is accepted does not end the run. -/
theorem Accepts.not_stops {b : Backend σ} {s s' s'' : State σ} {d : Directive}
    {ds : List Directive} {xs ys : List Exchange} {e : RunError}
    (h : Accepts b s (d :: ds) xs s') : ¬ Stops b d s e ys s'' := by
  intro h'
  cases h with
  | cons allowed success _ =>
    cases h' with
    | refused refusal => rw [allowed] at refusal; cases refusal
    | rejected _ rejection _ => rw [success] at rejection; cases rejection
    | rolledBack _ rejection _ => rw [success] at rejection; cases rejection

theorem step_of_refusal {b : Backend σ} {d : Directive} {s : State σ} {e : RunError}
    (columns : Nat) (h : refusal? s.transaction d.kind = some e) :
    step b columns d s = ⟨some e, s, []⟩ := by
  simp only [step, h]

theorem step_of_success {b : Backend σ} {d : Directive} {s : State σ} (columns : Nat)
    (allowed : refusal? s.transaction d.kind = none)
    (success : (exchangeFor b d s).verdict.success = true) :
    (step b columns d s).failure = none ∧ (step b columns d s).state = s.accept b d ∧
      exchanges (step b columns d s).trace = [exchangeFor b d s] := by
  have h : (b.call (callFor d) s.backend).verdict.success = true := success
  simp only [step, allowed, h, if_true]
  exact ⟨trivial, rfl, rfl⟩

theorem step_of_rejection {b : Backend σ} {d : Directive} {s : State σ} (columns : Nat)
    (allowed : refusal? s.transaction d.kind = none)
    (rejection : (exchangeFor b d s).verdict.success = false) :
    ∃ e, (step b columns d s).failure = some e ∧
      Stops b d s e (exchanges (step b columns d s).trace) (step b columns d s).state := by
  have h : (b.call (callFor d) s.backend).verdict.success = false := rejection
  simp only [step, allowed, h, Bool.false_eq_true, if_false]
  obtain ⟨x, t, n⟩ := s
  cases t with
  | none => exact ⟨_, rfl, .rejected allowed rejection rfl⟩
  | opened => exact ⟨_, rfl, .rolledBack allowed rejection rfl⟩

/-- A directive is accepted or ends the run. -/
theorem step_cases (b : Backend σ) (columns : Nat) (d : Directive) (s : State σ) :
    ((step b columns d s).failure = none ∧
      Accepts b s [d] (exchanges (step b columns d s).trace) (step b columns d s).state) ∨
    ∃ e, (step b columns d s).failure = some e ∧
      Stops b d s e (exchanges (step b columns d s).trace) (step b columns d s).state := by
  cases hr : refusal? s.transaction d.kind with
  | some e =>
    rw [step_of_refusal columns hr]
    exact .inr ⟨e, rfl, .refused hr⟩
  | none =>
    cases hv : (exchangeFor b d s).verdict.success with
    | true =>
      obtain ⟨hf, hs, hx⟩ := step_of_success columns hr hv
      rw [hs, hx]
      exact .inl ⟨hf, .cons hr hv (.nil _)⟩
    | false => exact .inr (step_of_rejection columns hr hv)

/-- What sending some directives comes to: all were accepted, or those before one that ended the
run. -/
inductive Sending (b : Backend σ) (ds : List Directive) (s : State σ) (p : Progress σ) : Prop
  | through (sent : Accepts b s ds (exchanges p.trace) p.state) (failure : p.failure = none)
  | stopped {before after : List Directive} {d : Directive} {e : RunError}
      {xs ys : List Exchange} {s' : State σ}
      (split : ds = before ++ d :: after) (sent : Accepts b s before xs s')
      (stops : Stops b d s' e ys p.state) (exchanges : exchanges p.trace = xs ++ ys)
      (failure : p.failure = some e)

/-- What is reported first changes nothing. -/
theorem Sending.after_logs {b : Backend σ} {ds : List Directive} {s : State σ} {p : Progress σ}
    (h : Sending b ds s p) (es : List Event) : Sending b ds s (p.after (es.map .log)) := by
  have hx : exchanges (p.after (es.map .log)).trace = exchanges p.trace := by
    rw [exchanges_after, exchanges_map_log, List.nil_append]
  cases h with
  | through sent failure => exact .through (hx ▸ sent) failure
  | stopped split sent stops h failure => exact .stopped split sent stops (hx.trans h) failure

theorem sending (b : Backend σ) (columns : Nat) (ds : List Directive) (s : State σ) :
    Sending b ds s (forEach (step b columns) ds s) := by
  induction ds generalizing s with
  | nil => exact .through (.nil s) rfl
  | cons d ds ih =>
    rcases step_cases b columns d s with ⟨hf, hd⟩ | ⟨e, hf, hd⟩
    · rw [forEach, Progress.andThen_of_none hf]
      cases ih (step b columns d s).state with
      | through sent failure =>
        refine .through ?_ failure
        rw [exchanges_after]
        exact hd.append sent
      | stopped split sent stops hx failure =>
        refine .stopped (congrArg (d :: ·) split) (hd.append sent) stops ?_ failure
        rw [exchanges_after, hx, List.append_assoc]
    · rw [forEach, Progress.andThen_of_some hf]
      exact .stopped rfl (.nil s) hd rfl hf

end Engine

end Runbook
