import Runbook.Proofs.Course

/-! # Completed runs

A run succeeds exactly when every line can be read, the markers of transactions alternate and leave
none open, and the backend accepts the calls for all directives in order. Then these are the calls
that were made.
-/
namespace Runbook

/-- Beginning in this state, transactions are opened and committed by turns, and none is left
open. -/
inductive Balanced : Transaction → List Kind → Prop
  | nil : Balanced .none []
  | start {ks : List Kind} (rest : Balanced .opened ks) : Balanced .none (.openTransaction :: ks)
  | commit {ks : List Kind} (rest : Balanced .none ks) : Balanced .opened (.commit :: ks)
  | sql {t : Transaction} {ks : List Kind} (rest : Balanced t ks) : Balanced t (.sql :: ks)
  | api {t : Transaction} {ks : List Kind} (rest : Balanced t ks) : Balanced t (.api :: ks)

variable {σ : Type}

/-- The backend accepts these calls one after the other. -/
def Backend.Grants (b : Backend σ) : List Call → σ → Prop
  | [], _ => True
  | c :: cs, x => (b.call c x).verdict.success = true ∧ b.Grants cs (b.call c x).state

namespace Engine

theorem balanced_cons_iff (t : Transaction) (k : Kind) (ks : List Kind) :
    Balanced t (k :: ks) ↔ refusal? t k = none ∧ Balanced (t.next k) ks := by
  constructor
  · intro h
    cases h with
    | start rest => exact ⟨rfl, rest⟩
    | commit rest => exact ⟨rfl, rest⟩
    | sql rest => exact ⟨by cases t <;> rfl, rest⟩
    | api rest => exact ⟨by cases t <;> rfl, rest⟩
  · rintro ⟨allowed, rest⟩
    cases k with
    | sql => exact .sql rest
    | api => exact .api rest
    | openTransaction =>
      cases t with
      | none => exact .start rest
      | opened => cases allowed
    | commit =>
      cases t with
      | none => cases allowed
      | opened => exact .commit rest

theorem balanced_nil_iff (t : Transaction) : Balanced t [] ↔ t = .none := by
  constructor
  · intro h
    cases h
    rfl
  · rintro rfl
    exact .nil

/-- All directives are accepted, and no transaction is open at the end. -/
theorem accepts_closed_iff (b : Backend σ) (ds : List Directive) (s : State σ) :
    (∃ xs s', Accepts b s ds xs s' ∧ s'.transaction = .none) ↔
      Balanced s.transaction (ds.map Directive.kind) ∧ b.Grants (ds.map callFor) s.backend := by
  induction ds generalizing s with
  | nil =>
    rw [List.map_nil, balanced_nil_iff]
    constructor
    · rintro ⟨xs, s', sent, closed⟩
      cases sent
      exact ⟨closed, trivial⟩
    · rintro ⟨closed, -⟩
      exact ⟨[], s, .nil s, closed⟩
  | cons d ds ih =>
    have h := ih (s.accept b d)
    rw [List.map_cons, balanced_cons_iff]
    constructor
    · rintro ⟨xs, s', sent, closed⟩
      cases sent with
      | cons allowed success more =>
        obtain ⟨balanced, grants⟩ := h.mp ⟨_, s', more, closed⟩
        exact ⟨⟨allowed, balanced⟩, success, grants⟩
    · rintro ⟨⟨allowed, balanced⟩, success, grants⟩
      obtain ⟨xs, s', more, closed⟩ := h.mpr ⟨balanced, grants⟩
      exact ⟨_, s', .cons allowed success more, closed⟩

/-- A run in which all directives are accepted succeeds, if no transaction is open at the end. -/
theorem failure_eq_none_of_accepts {b : Backend σ} {fs : FileSystem} {text : Text} {s s' : State σ}
    {ds : List Directive} {xs : List Exchange} (columns : Nat)
    (leaves : Leaves fs (Text.lines text) ds) (sent : Accepts b s ds xs s')
    (closed : s'.transaction = .none) : (run b fs columns text s).failure = none := by
  rcases run_cases b fs columns text s with ⟨es, leaves', sent', failure⟩ | ⟨e, -, ending⟩
  · rw [failure, finish_failure_eq_none_iff, sent'.transaction, leaves'.unique leaves,
      ← sent.transaction]
    exact closed
  · exfalso
    cases ending with
    | unreadable split _ bad _ => exact (split ▸ leaves).not_unreadable bad
    | stopped split before sent' stops _ =>
      obtain ⟨es, more, rfl, hes, -⟩ := (split ▸ leaves).split
      rw [hes.unique before, List.append_assoc] at sent
      obtain ⟨zs, further, -⟩ := sent.split sent'
      exact further.not_stops stops

/-- When a run succeeds, and what it has done then. -/
theorem failure_eq_none_iff (b : Backend σ) (fs : FileSystem) (columns : Nat) (text : Text)
    (s : State σ) :
    ((run b fs columns text s).failure = none ↔
      ∃ ds, Leaves fs (Text.lines text) ds ∧ Balanced s.transaction (ds.map Directive.kind) ∧
        b.Grants (ds.map callFor) s.backend) ∧
    ∀ ds, Leaves fs (Text.lines text) ds → (run b fs columns text s).failure = none →
      Sent s ds (run b fs columns text s) ∧
        (run b fs columns text s).state.transaction = .none := by
  refine ⟨⟨fun h => ?_, ?_⟩, fun ds leaves h => ?_⟩
  · obtain ⟨ds, leaves, sent, closed⟩ := sent_of_failure_eq_none h
    exact ⟨ds, leaves, (accepts_closed_iff b ds s).mp ⟨_, _, sent, closed⟩⟩
  · rintro ⟨ds, leaves, h⟩
    obtain ⟨xs, s', sent, closed⟩ := (accepts_closed_iff b ds s).mpr h
    exact failure_eq_none_of_accepts columns leaves sent closed
  · obtain ⟨es, leaves', sent, closed⟩ := sent_of_failure_eq_none h
    rw [leaves.unique leaves']
    exact ⟨sent.sent, closed⟩

end Engine

end Runbook
