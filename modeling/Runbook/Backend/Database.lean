import Runbook.Backend.Basic
import Runbook.Backend.Registration

/-! # Databases

A database session runs statements and counts rows; the backend over it sends SQL as it is and
registers by a function of the administrative schema.
-/
namespace Runbook

/-- How many rows a batch of statements wrote and how many it returned. -/
structure Rows where
  affected : Nat
  returned : Nat
  deriving DecidableEq, Repr

/-- The causes of a failure, the outermost first. -/
abbrev Causes := List Text

def Causes.message (c : Causes) : Text := Text.join ": ".toList c

structure Session (σ : Type) where
  run : Text → σ → Except Causes Rows × σ

namespace Backend

def statementFor? (schema : Text) (d : Directive) : Option Text :=
  match d.kind with
  | .api => none
  | .openTransaction => some Control.start.statement
  | .commit => some Control.commit.statement
  | .sql =>
    if d.subtype.isRegistration then some (Registration.statement schema d) else some d.content

def rowsDocument (r : Rows) : Json :=
  .obj [("affected", .nat r.affected), ("rows", .nat r.returned)]

def verdictOfRows : Except Causes Rows → Verdict
  | .ok rows => .ok (rowsDocument rows)
  | .error causes => .failure causes.message

def database {σ : Type} (session : Session σ) (schema : Text) : Backend σ :=
  .ofExecute fun d s =>
    match statementFor? schema d with
    | none => ⟨.failure "API directives require an [api] backend".toList, s, []⟩
    | some sql =>
      let (reply, s') := session.run sql s
      ⟨verdictOfRows reply, s', [.statement sql]⟩

end Backend

end Runbook
