import Runbook.Backend.Basic
import Runbook.Directive.Line
import Runbook.Reference.Resolution
import Runbook.RunFile
import Runbook.Text.Clip

/-! # Engine

A run goes through the lines of a run file in order. Each line stands for some directives, its own
or those of the files it refers to, and they are sent one by one; the first failure ends the run. A
call that fails inside a transaction is followed by a rollback. What a run leaves behind, and a
trace of what it reported and called, is its result.
-/
namespace Runbook

inductive Transaction where
  | none
  | opened
  deriving DecidableEq, Repr

def Transaction.next (t : Transaction) : Kind → Transaction
  | .openTransaction => .opened
  | .commit => .none
  | .sql | .api => t

namespace Engine

/-- One thing that a run did: it reported something, or it called the backend, with a transaction
open or without. -/
inductive Entry where
  | log (e : Event)
  | call (c : Call) (during : Transaction) (v : Verdict) (emissions : List Emission)
  deriving Repr

abbrev Trace := List Entry

/-- What the run itself and its backend did, in order, without the calls between them. -/
def emissions (t : Trace) : List Emission :=
  t.flatMap fun
    | .log e => [.log e]
    | .call _ _ _ emissions => emissions

def events (t : Trace) : List Event :=
  (emissions t).filterMap fun
    | .log e => some e
    | _ => none

/-- The state of an engine over a backend with states `σ`: the number of directives that were
accepted counts over all runs. -/
structure State (σ : Type) where
  backend : σ
  transaction : Transaction
  executed : Nat

def State.fresh {σ : Type} (backend : σ) : State σ := ⟨backend, .none, 0⟩

/-- What some part of a run came to: the failure that ended it, if any, the state after it, and
what it did. -/
structure Progress (σ : Type) where
  failure : Option RunError
  state : State σ
  trace : Trace

namespace Progress

variable {σ : Type}

def done (s : State σ) : Progress σ := ⟨none, s, []⟩

def after (first : Trace) (p : Progress σ) : Progress σ := { p with trace := first ++ p.trace }

def andThen (p : Progress σ) (next : State σ → Progress σ) : Progress σ :=
  match p.failure with
  | some _ => p
  | none => (next p.state).after p.trace

theorem andThen_of_none {p : Progress σ} {next : State σ → Progress σ} (h : p.failure = none) :
    p.andThen next = (next p.state).after p.trace := by
  simp only [andThen, h]

theorem andThen_of_some {p : Progress σ} {next : State σ → Progress σ} {e : RunError}
    (h : p.failure = some e) : p.andThen next = p := by
  simp only [andThen, h]

theorem done_andThen (s : State σ) (next : State σ → Progress σ) :
    (done s).andThen next = next s := by
  simp [done, andThen, after]

theorem andThen_done (p : Progress σ) : p.andThen done = p := by
  obtain ⟨f, s, t⟩ := p
  cases f <;> simp [andThen, done, after]

theorem andThen_assoc (p : Progress σ) (f g : State σ → Progress σ) :
    (p.andThen f).andThen g = p.andThen fun s => (f s).andThen g := by
  obtain ⟨e, s, t⟩ := p
  cases e with
  | some e => rfl
  | none =>
    simp only [andThen, after]
    cases h : (f s).failure <;> simp [h]

end Progress

def forEach {σ α : Type} (f : α → State σ → Progress σ) : List α → State σ → Progress σ
  | [], s => .done s
  | a :: rest, s => (f a s).andThen (forEach f rest)

theorem forEach_nil {σ α : Type} (f : α → State σ → Progress σ) : forEach f [] = .done := rfl

theorem forEach_singleton {σ α : Type} (f : α → State σ → Progress σ) (a : α) :
    forEach f [a] = f a := by
  funext s
  exact Progress.andThen_done (f a s)

theorem forEach_append {σ α : Type} (f : α → State σ → Progress σ) (l m : List α) (s : State σ) :
    forEach f (l ++ m) s = (forEach f l s).andThen (forEach f m) := by
  induction l generalizing s with
  | nil => simp [forEach, Progress.done_andThen]
  | cons a l ih =>
    simp only [List.cons_append, forEach, Progress.andThen_assoc]
    congr 1
    funext t
    exact ih t

def diagnosticLevel : Nat := 5

def descriptionWidth (columns : Nat) : Nat := columns - 3

def announcement (columns : Nat) (d : Directive) : Event :=
  .directive (Text.clip d.describe (descriptionWidth columns)) d.source

def callFor (d : Directive) : Call :=
  match d.kind with
  | .openTransaction => .control .start
  | .commit => .control .commit
  | .sql | .api => .execute d

/-- Why a directive cannot be sent in a state: transactions are opened when none is open, and
committed when one is. -/
def refusal? (t : Transaction) (k : Kind) : Option RunError :=
  match k, t with
  | .openTransaction, .opened =>
    some (.configuration "SQL/TRANSACTION while a transaction is already open".toList)
  | .commit, .none => some (.configuration "SQL/COMMIT without an open transaction".toList)
  | _, _ => none

variable {σ : Type}

/-- What follows when the backend refuses a directive: inside a transaction a rollback, which ends
it in any case. -/
def fail (b : Backend σ) (d : Directive) (diagnostic : Text) (s : State σ) : Progress σ :=
  match s.transaction with
  | .none => ⟨some (.backend d.describe diagnostic), s, []⟩
  | .opened =>
    let a := b.transaction .rollback s.backend
    let error := if a.verdict.success then RunError.backend d.describe diagnostic
      else .rollback d.describe diagnostic a.verdict.message
    ⟨some error, { s with backend := a.state, transaction := .none },
      [.log (.warn "Rolling back transaction".toList),
        .call (.control .rollback) s.transaction a.verdict a.emissions]⟩

def step (b : Backend σ) (columns : Nat) (d : Directive) (s : State σ) : Progress σ :=
  match refusal? s.transaction d.kind with
  | some e => ⟨some e, s, []⟩
  | none =>
    let c := callFor d
    let a := b.call c s.backend
    let entries : Trace := [.log (announcement columns d),
      .call c s.transaction a.verdict a.emissions,
      .log (.detail diagnosticLevel a.verdict.diagnostic.render)]
    if a.verdict.success then
      ⟨none, ⟨a.state, s.transaction.next d.kind, s.executed + 1⟩, entries⟩
    else (fail b d a.verdict.message { s with backend := a.state }).after entries

/-- What a line stands for: some directives, or the error of the line; and what is reported while
that is found out. -/
structure Expansion where
  leaves : Except RunError (List Directive)
  events : List Event

def expand (fs : FileSystem) (l : RunFile.NumberedLine) : Expansion :=
  match Line.parse l.text with
  | .error e => ⟨.error (.parse l.number e.message), []⟩
  | .ok (.literal d) => ⟨.ok [d], []⟩
  | .ok (.reference r) =>
    let found := r.resolve fs
    ⟨found.result.mapError (Resolution.Error.atLine l.number), found.events⟩

def runLine (b : Backend σ) (fs : FileSystem) (columns : Nat) (l : RunFile.NumberedLine)
    (s : State σ) : Progress σ :=
  let x := expand fs l
  Progress.after (x.events.map .log) <|
    match x.leaves with
    | .error e => ⟨some e, s, []⟩
    | .ok leaves => forEach (step b columns) leaves s

/-- The end of a run file, at which no transaction may be open. -/
def finish (s : State σ) : Progress σ :=
  match s.transaction with
  | .opened =>
    ⟨some (.configuration "SQL/TRANSACTION was never followed by SQL/COMMIT".toList), s, []⟩
  | .none =>
    ⟨none, s, [.log (.info ("Executed ".toList ++ Text.ofNat s.executed ++
      " directive(s)".toList))]⟩

def run (b : Backend σ) (fs : FileSystem) (columns : Nat) (text : Text) (s : State σ) :
    Progress σ :=
  (forEach (runLine b fs columns) (RunFile.lines text) s).andThen finish

end Engine

end Runbook
