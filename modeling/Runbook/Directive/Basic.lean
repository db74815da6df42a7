import Runbook.Path
import Runbook.Json.Basic
import Runbook.Text.Lines

/-! # Directives

A directive is one instruction for a backend. It is written inline in a run file or read from a file
that the run file refers to.
-/
namespace Runbook

inductive Kind where
  | sql
  | api
  | openTransaction
  | commit
  deriving DecidableEq, Repr

def Kind.tag : Kind → Text
  | .sql => "SQL".toList
  | .api => "API".toList
  | .openTransaction => "SQL/TRANSACTION".toList
  | .commit => "SQL/COMMIT".toList

def Kind.all : List Kind := [.sql, .api, .openTransaction, .commit]

def Kind.ofTag? (tag : Text) : Option Kind := Kind.all.find? fun k => k.tag == tag

/-- What is done with the content: it is run as it is, or registered under a name. -/
inductive Subtype where
  | raw
  | report
  | filter
  | script
  deriving DecidableEq, Repr

namespace Subtype

def tag : Subtype → Text
  | .raw => "raw".toList
  | .report => "report".toList
  | .filter => "filter".toList
  | .script => "script".toList

def all : List Subtype := [.raw, .report, .filter, .script]

def ofTag? (tag : Text) : Option Subtype :=
  all.find? fun s => s.tag == Text.lowerAscii tag

def isRegistration (s : Subtype) : Bool := s != .raw

end Subtype

/-- One instruction, with the options from its file, if it had any, and the file it was read from,
if it was. -/
structure Directive where
  kind : Kind
  subtype : Subtype
  options : Option Json.Members
  content : Text
  source : Option Path
  deriving Repr

namespace Directive

def literal (kind : Kind) (content : Text) : Directive := ⟨kind, .raw, none, content, none⟩

/-- The name it is registered under: that of its file, without the extension. -/
def name (d : Directive) : Text :=
  match d.source.bind Path.fileStem? with
  | some stem => Text.decodeLossy stem
  | none => "inline".toList

def describe (d : Directive) : Text :=
  match d.kind with
  | .openTransaction => "Starting transaction".toList
  | .commit => "Committing transaction".toList
  | .api => "Calling API: ".toList ++ Text.firstLine d.content
  | .sql =>
    if d.subtype.isRegistration then
      "Registering ".toList ++ d.subtype.tag ++ ": ".toList ++ d.name
    else "Running SQL: ".toList ++ Text.firstLine d.content

end Directive

structure Reference where
  kind : Kind
  subtype : Subtype
  path : Path
  deriving DecidableEq, Repr

end Runbook
