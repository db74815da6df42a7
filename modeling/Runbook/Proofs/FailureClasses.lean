import Runbook.Backend.Scripted
import Runbook.FileSystem.Virtual
import Runbook.Proofs.Course

/-! # Why a run fails

The error of a failed run tells where it stopped: at a line that cannot be read, at a marker of
transactions that is out of place, or at a call that failed. Everything before that point was sent
and accepted, and nothing after it was sent.
-/
namespace Runbook

/-- A line of the run file caused this error: it breaks the grammar, or its reference cannot be
resolved. -/
def RunError.IsOfLine : RunError → Prop
  | .parse .. | .fileNotFound _ | .io .. => True
  | _ => False

namespace Engine

variable {σ : Type}

/-- A marker is out of place: a transaction is opened while one is open, or committed while none
is. -/
def Misplaced (t : Transaction) (k : Kind) : Prop :=
  k = .openTransaction ∧ t = .opened ∨ k = .commit ∧ t = .none

/-- A run stopped at a line that cannot be read. A parse error holds the number of that line, where
all physical lines count. -/
def FailedAtLine (fs : FileSystem) (text : Text) (s : State σ) (p : Progress σ) (e : RunError) :
    Prop :=
  ∃ above line below ds, Text.lines text = above ++ line :: below ∧ Leaves fs above ds ∧
    Unreadable fs (above.length + 1) line e ∧ Sent s ds p ∧
    ∀ number message, e = .parse number message → number = above.length + 1

/-- A run stopped at a misplaced marker, or at the end of its file with a transaction open. -/
def FailedAtMarker (fs : FileSystem) (text : Text) (s : State σ) (p : Progress σ) : Prop :=
  ∃ above below ds, Text.lines text = above ++ below ∧ Sent s ds p ∧
    ((∃ d after, Leaves fs above (ds ++ d :: after) ∧ Misplaced p.state.transaction d.kind) ∨
      (below = [] ∧ Leaves fs above ds ∧ p.state.transaction = .opened))

/-- The exchanges from a failed call on, with the error: a rollback follows exactly when a
transaction is open. -/
inductive Aftermath (d : Directive) (v : Verdict) : Transaction → List Exchange → RunError → Prop
  | rejected : Aftermath d v .none [⟨callFor d, .none, v⟩] (.backend d.describe v.message)
  | rolledBack {w : Verdict} (success : w.success = true) :
      Aftermath d v .opened [⟨callFor d, .opened, v⟩, ⟨.control .rollback, .opened, w⟩]
        (.backend d.describe v.message)
  | rollbackFailed {w : Verdict} (failure : w.success = false) :
      Aftermath d v .opened [⟨callFor d, .opened, v⟩, ⟨.control .rollback, .opened, w⟩]
        (.rollback d.describe v.message w.message)

/-- A run stopped at a call that failed, after calls that did not. No transaction is open then. -/
def FailedAtCall (fs : FileSystem) (text : Text) (s : State σ) (p : Progress σ) (e : RunError) :
    Prop :=
  ∃ above below before d after xs ys v, Text.lines text = above ++ below ∧
    Leaves fs above (before ++ d :: after) ∧ xs.map Exchange.call = before.map callFor ∧
    (∀ x ∈ xs, x.verdict.success = true) ∧ v.success = false ∧
    Aftermath d v (s.transaction.after before) ys e ∧ exchanges p.trace = xs ++ ys ∧
    p.state.transaction = .none ∧ p.state.executed = s.executed + before.length

/-- Where a run stopped, by the kind of its error. -/
def Explained (fs : FileSystem) (text : Text) (s : State σ) (p : Progress σ) (e : RunError) :
    Prop :=
  match e with
  | .parse .. | .fileNotFound _ | .io .. => FailedAtLine fs text s p e
  | .configuration _ => FailedAtMarker fs text s p
  | .backend .. | .rollback .. => FailedAtCall fs text s p e
  | .connect .. | .settings _ => False

theorem Unreadable.isOfLine {fs : FileSystem} {n : Nat} {line : Text} {e : RunError}
    (h : Unreadable fs n line e) : e.IsOfLine := by
  cases h with
  | malformed => trivial
  | @unresolved _ e => cases e <;> trivial

theorem Unreadable.number_eq {fs : FileSystem} {n m : Nat} {line message : Text}
    (h : Unreadable fs n line (.parse m message)) : m = n := by
  generalize he : RunError.parse m message = e at h
  cases h with
  | malformed => cases he; rfl
  | @unresolved _ e => cases e <;> cases he; rfl

theorem refusal?_eq_some {t : Transaction} {k : Kind} {e : RunError} (h : refusal? t k = some e) :
    Misplaced t k ∧ ∃ message, e = .configuration message := by
  cases t <;> cases k <;> cases h
  · exact ⟨.inr ⟨rfl, rfl⟩, _, rfl⟩
  · exact ⟨.inl ⟨rfl, rfl⟩, _, rfl⟩

theorem explained_of_isOfLine {fs : FileSystem} {text : Text} {s : State σ} {p : Progress σ}
    {e : RunError} (line : e.IsOfLine) (h : FailedAtLine fs text s p e) :
    Explained fs text s p e := by
  cases e with
  | parse | fileNotFound | io => exact h
  | configuration | backend | rollback | connect | settings => cases line

/-- A directive that ends a run explains its error. -/
theorem Stops.explained {b : Backend σ} {fs : FileSystem} {text : Text} {s s' : State σ}
    {p : Progress σ} {e : RunError} {above below : List Text} {before after : List Directive}
    {d : Directive} {xs ys : List Exchange} (split : Text.lines text = above ++ below)
    (leaves : Leaves fs above (before ++ d :: after)) (sent : Accepts b s before xs s')
    (stops : Stops b d s' e ys p.state) (hx : exchanges p.trace = xs ++ ys) :
    Explained fs text s p e := by
  have ht := sent.transaction
  have hn := sent.executed
  obtain ⟨failure, s'', trace⟩ := p
  cases stops with
  | refused refusal =>
    obtain ⟨misplaced, message, rfl⟩ := refusal?_eq_some refusal
    rw [List.append_nil] at hx
    have sent' : Accepts b s before (exchanges trace) s'' := hx ▸ sent
    exact ⟨above, below, before, split, ⟨sent'.calls, sent'.success, ht, hn⟩,
      .inl ⟨d, after, leaves, misplaced⟩⟩
  | rejected allowed rejection closed =>
    obtain ⟨x, t, n⟩ := s'
    subst closed
    exact ⟨above, below, before, d, after, xs, _, _, split, leaves, sent.calls, sent.success,
      rejection, ht ▸ .rejected, hx, rfl, hn⟩
  | rolledBack allowed rejection opened =>
    obtain ⟨x, t, n⟩ := s'
    subst opened
    cases hw : (rollbackAnswer b d ⟨x, .opened, n⟩).verdict.success with
    | true =>
      rw [rollbackError, if_pos hw]
      exact ⟨above, below, before, d, after, xs, _, _, split, leaves, sent.calls, sent.success,
        rejection, ht ▸ .rolledBack hw, hx, rfl, hn⟩
    | false =>
      rw [rollbackError, if_neg (by rw [hw]; exact Bool.false_ne_true)]
      exact ⟨above, below, before, d, after, xs, _, _, split, leaves, sent.calls, sent.success,
        rejection, ht ▸ .rollbackFailed hw, hx, rfl, hn⟩

/-- A directive that ends a run makes no error of a line. -/
theorem Stops.not_isOfLine {b : Backend σ} {d : Directive} {s s' : State σ} {e : RunError}
    {ys : List Exchange} (h : Stops b d s e ys s') : ¬ e.IsOfLine := by
  intro line
  cases h with
  | refused refusal =>
    obtain ⟨-, message, rfl⟩ := refusal?_eq_some refusal
    exact line
  | rejected => exact line
  | rolledBack =>
    rw [rollbackError] at line
    split at line <;> exact line

/-- Errors of lines arise at lines only. -/
theorem failedAtLine_of_isOfLine {b : Backend σ} {fs : FileSystem} {columns : Nat} {text : Text}
    {s : State σ} {e : RunError} (h : (run b fs columns text s).failure = some e)
    (line : e.IsOfLine) : FailedAtLine fs text s (run b fs columns text s) e := by
  rcases ending_of_failure_eq_some h with ⟨ds, message, -, -, -, rfl⟩ | ending
  · cases line
  · cases ending with
    | stopped _ _ _ stops _ => exact absurd line stops.not_isOfLine
    | unreadable split leaves bad sent =>
      refine ⟨_, _, _, _, split, leaves, bad, sent.sent, ?_⟩
      rintro number message rfl
      exact bad.number_eq

/-- Every failed run stopped where its error tells. -/
theorem explained_of_failure {b : Backend σ} {fs : FileSystem} {columns : Nat} {text : Text}
    {s : State σ} {e : RunError} (h : (run b fs columns text s).failure = some e) :
    Explained fs text s (run b fs columns text s) e := by
  by_cases line : e.IsOfLine
  · exact explained_of_isOfLine line (failedAtLine_of_isOfLine h line)
  · rcases ending_of_failure_eq_some h with ⟨ds, message, leaves, sent, opened, rfl⟩ | ending
    · exact ⟨_, [], ds, (List.append_nil _).symm, sent.sent, .inr ⟨rfl, leaves, opened⟩⟩
    · cases ending with
      | unreadable _ _ bad _ => exact absurd bad.isOfLine line
      | stopped split leaves sent stops hx => exact stops.explained split leaves sent hx

/-- A file whose option marker breaks off, in a transaction and after a comment. -/
theorem explained_brokenMarker :
    let fs := (Virtual.empty.put (.ofText "r.sql".toList) (.file (Text.encode "!x:\x7b".toList)))
    let text := "SQL/TRANSACTION: \nSQL: a\n-- b\nFILE/SQL/report: r.sql\nSQL/COMMIT: ".toList
    let p := run Backend.recorder fs.fileSystem 80 text (.fresh ⟨[], []⟩)
    let e := RunError.parse 4
      "r.sql: option 'x' is not valid JSON: EOF while parsing an object at line 1 column 1".toList
    p.failure = some e ∧ Explained fs.fileSystem text (.fresh ⟨[], []⟩) p e :=
  ⟨by decide, explained_of_failure (by decide)⟩

end Engine

end Runbook
