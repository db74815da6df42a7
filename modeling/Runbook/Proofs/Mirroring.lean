import Runbook.Proofs.Correspondence

/-! # Mirrored runs

Two backends mirror each other when in related states they answer every call with the same verdict
and do the same, up to the documents that they post. Then runs on them do the same, and related
documents are posted in the same order.
-/
namespace Runbook

variable {σ τ : Type}

inductive Emission.Mirrored (P : Json → Json → Prop) : Emission → Emission → Prop
  | log (e : Event) : Mirrored P (.log e) (.log e)
  | received (c : Call) : Mirrored P (.received c) (.received c)
  | statement (sql : Text) : Mirrored P (.statement sql) (.statement sql)
  | posted {x y : Json} (h : P x y) : Mirrored P (.posted x) (.posted y)

structure Answer.Mirrored (R : σ → τ → Prop) (P : Json → Json → Prop) (a : Answer σ)
    (b : Answer τ) : Prop where
  verdict : a.verdict = b.verdict
  state : R a.state b.state
  emissions : List.Forall₂ (Emission.Mirrored P) a.emissions b.emissions

/-- In related states every call is answered alike, and leaves related states. -/
def Backend.Mirrored (R : σ → τ → Prop) (P : Json → Json → Prop) (b : Backend σ)
    (c : Backend τ) : Prop :=
  ∀ call x y, R x y → Answer.Mirrored R P (b.call call x) (c.call call y)

namespace Engine

inductive Entry.Mirrored (P : Json → Json → Prop) : Entry → Entry → Prop
  | log (e : Event) : Mirrored P (.log e) (.log e)
  | call (c : Call) (t : Transaction) (v : Verdict) {es es' : List Emission}
      (h : List.Forall₂ (Emission.Mirrored P) es es') : Mirrored P (.call c t v es) (.call c t v es')

structure State.Mirrored (R : σ → τ → Prop) (s : State σ) (t : State τ) : Prop where
  backend : R s.backend t.backend
  transaction : s.transaction = t.transaction
  executed : s.executed = t.executed

structure Progress.Mirrored (R : σ → τ → Prop) (P : Json → Json → Prop) (p : Progress σ)
    (q : Progress τ) : Prop where
  failure : p.failure = q.failure
  state : p.state.Mirrored R q.state
  trace : List.Forall₂ (Entry.Mirrored P) p.trace q.trace

variable {R : σ → τ → Prop} {P : Json → Json → Prop} {b : Backend σ} {c : Backend τ}
  {s : State σ} {t : State τ} {p : Progress σ} {q : Progress τ}

namespace Progress.Mirrored

theorem after {first first' : Trace} (before : List.Forall₂ (Entry.Mirrored P) first first')
    (h : p.Mirrored R P q) : (p.after first).Mirrored R P (q.after first') :=
  ⟨h.failure, h.state, List.rel_append before h.trace⟩

theorem andThen {f : State σ → Progress σ} {g : State τ → Progress τ} (h : p.Mirrored R P q)
    (next : ∀ s t, s.Mirrored R t → (f s).Mirrored R P (g t)) :
    (p.andThen f).Mirrored R P (q.andThen g) := by
  cases hq : q.failure with
  | some e =>
    rw [Progress.andThen_of_some hq, Progress.andThen_of_some (h.failure.trans hq)]
    exact h
  | none =>
    rw [Progress.andThen_of_none hq, Progress.andThen_of_none (h.failure.trans hq)]
    exact (next _ _ h.state).after h.trace

theorem forEach {α : Type} {f : α → State σ → Progress σ} {g : α → State τ → Progress τ}
    (one : ∀ a s t, s.Mirrored R t → (f a s).Mirrored R P (g a t)) (l : List α)
    (h : s.Mirrored R t) : (forEach f l s).Mirrored R P (forEach g l t) := by
  induction l generalizing s t with
  | nil => exact ⟨rfl, h, .nil⟩
  | cons a l ih => exact (one a s t h).andThen fun _ _ => ih

end Progress.Mirrored

theorem logs_mirrored (es : List Event) :
    List.Forall₂ (Entry.Mirrored P) (es.map .log) (es.map .log) := by
  induction es with
  | nil => exact .nil
  | cons e es ih => exact .cons (.log e) ih

theorem exchange_mirrored {es es' : List Emission}
    (h : List.Forall₂ (Emission.Mirrored P) es es') (e e' : Event) (call : Call) (t : Transaction)
    (v : Verdict) :
    List.Forall₂ (Entry.Mirrored P) [.log e, .call call t v es, .log e']
      [.log e, .call call t v es', .log e'] :=
  .cons (.log e) (.cons (.call call t v h) (.cons (.log e') .nil))

theorem fail_mirrored (hb : b.Mirrored R P c) (d : Directive) (m : Text) (h : s.Mirrored R t) :
    (fail b d m s).Mirrored R P (fail c d m t) := by
  obtain ⟨x, transaction, executed⟩ := s
  obtain ⟨y, transaction', executed'⟩ := t
  obtain ⟨hxy, rfl, rfl⟩ := h
  cases transaction with
  | none => exact ⟨rfl, ⟨hxy, rfl, rfl⟩, .nil⟩
  | opened =>
    obtain ⟨verdict, state, emissions⟩ :
      Answer.Mirrored R P (b.transaction .rollback x) (c.transaction .rollback y) :=
        hb (.control .rollback) x y hxy
    simp only [fail, verdict]
    exact ⟨rfl, ⟨state, rfl, rfl⟩, .cons (.log _) (.cons (.call _ _ _ emissions) .nil)⟩

theorem step_mirrored (hb : b.Mirrored R P c) (columns : Nat) (d : Directive)
    (h : s.Mirrored R t) : (step b columns d s).Mirrored R P (step c columns d t) := by
  rw [step, step, h.transaction]
  cases refusal? t.transaction d.kind with
  | some e => exact ⟨rfl, h, .nil⟩
  | none =>
    obtain ⟨verdict, state, emissions⟩ := hb (callFor d) s.backend t.backend h.backend
    simp only [verdict]
    split
    · exact ⟨rfl, ⟨state, rfl, congrArg (· + 1) h.executed⟩, exchange_mirrored emissions _ _ _ _ _⟩
    · refine .after (exchange_mirrored emissions _ _ _ _ _) (fail_mirrored hb d _ ?_)
      exact ⟨state, rfl, h.executed⟩

theorem runLine_mirrored (hb : b.Mirrored R P c) (fs : FileSystem) (columns : Nat)
    (l : RunFile.NumberedLine) (h : s.Mirrored R t) :
    (runLine b fs columns l s).Mirrored R P (runLine c fs columns l t) := by
  refine Progress.Mirrored.after (logs_mirrored _) ?_
  cases (expand fs l).leaves with
  | error e => exact ⟨rfl, h, .nil⟩
  | ok ds => exact .forEach (fun d _ _ => step_mirrored hb columns d) ds h

theorem finish_mirrored (h : s.Mirrored R t) :
    (finish s).Mirrored R P (finish t) := by
  rw [finish, finish, h.transaction, h.executed]
  cases t.transaction with
  | none => exact ⟨rfl, h, .cons (.log _) .nil⟩
  | opened => exact ⟨rfl, h, .nil⟩

/-- Runs on backends that mirror each other. -/
theorem run_mirrored (hb : b.Mirrored R P c) (fs : FileSystem) (columns : Nat) (text : Text)
    (h : s.Mirrored R t) : (run b fs columns text s).Mirrored R P (run c fs columns text t) :=
  (Progress.Mirrored.forEach (fun l _ _ => runLine_mirrored hb fs columns l) _ h).andThen
    fun _ _ => finish_mirrored

/-! ## What is reported and posted -/

variable {tr tr' : Trace}

theorem emissions_mirrored (h : List.Forall₂ (Entry.Mirrored P) tr tr') :
    List.Forall₂ (Emission.Mirrored P) (emissions tr) (emissions tr') := by
  refine List.rel_flatMap h fun x y hxy => ?_
  cases hxy with
  | log e => exact .cons (.log e) .nil
  | call _ _ _ h => exact h

theorem events_eq_of_mirrored (h : List.Forall₂ (Entry.Mirrored P) tr tr') :
    events tr = events tr' := by
  rw [← List.forall₂_eq_eq_eq]
  refine List.rel_filterMap (fun x y hxy => ?_) (emissions_mirrored h)
  cases hxy with
  | log e => exact .some rfl
  | received | statement | posted => exact .none

theorem bodies_mirrored (h : List.Forall₂ (Entry.Mirrored P) tr tr') :
    List.Forall₂ P (bodies tr) (bodies tr') := by
  refine List.rel_filterMap (fun x y hxy => ?_) (emissions_mirrored h)
  cases hxy with
  | posted h => exact .some h
  | log | received | statement => exact .none

end Engine

end Runbook
