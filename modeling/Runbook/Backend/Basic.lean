import Runbook.Directive.Basic
import Runbook.Json.Printer
import Runbook.Log.Event

/-! # Backends

A backend carries out directives and transaction controls, one call after the other. It is a
function of a state, and besides its verdict it gives what it did on the way, in order.
-/
namespace Runbook

structure Verdict where
  success : Bool
  diagnostic : Json
  deriving Repr

namespace Verdict

def ok (diagnostic : Json) : Verdict := ⟨true, diagnostic⟩

def rejected (diagnostic : Json) : Verdict := ⟨false, diagnostic⟩

def failure (message : Text) : Verdict := ⟨false, .string message⟩

/-- The diagnostic in one text: a string as it is, an object's `message` if that is a string, and
every other value as compact JSON. -/
def message (v : Verdict) : Text :=
  match v.diagnostic with
  | .string t => t
  | d => match d.member? "message".toList with
    | some (.string t) => t
    | _ => d.render

end Verdict

inductive Control where
  | start
  | commit
  | rollback
  deriving DecidableEq, Repr

def Control.statement : Control → Text
  | .start => "BEGIN".toList
  | .commit => "COMMIT".toList
  | .rollback => "ROLLBACK".toList

def Control.all : List Control := [.start, .commit, .rollback]

inductive Call where
  | execute (d : Directive)
  | control (c : Control)
  deriving Repr

/-- What a backend does in the course of a call: it reports something, takes note of the call, runs
a statement on its session, or posts a document. -/
inductive Emission where
  | log (e : Event)
  | received (c : Call)
  | statement (sql : Text)
  | posted (body : Json)
  deriving Repr

structure Answer (σ : Type) where
  verdict : Verdict
  state : σ
  emissions : List Emission

structure Backend (σ : Type) where
  execute : Directive → σ → Answer σ
  transaction : Control → σ → Answer σ

namespace Backend

/-- A backend that runs the statements of transaction controls like any SQL. -/
def ofExecute {σ : Type} (execute : Directive → σ → Answer σ) : Backend σ where
  execute := execute
  transaction c := execute (.literal .sql c.statement)

def call {σ : Type} (b : Backend σ) : Call → σ → Answer σ
  | .execute d => b.execute d
  | .control c => b.transaction c

end Backend

end Runbook
