import Runbook.Path

/-! # File systems

What the program asks of a file system. The answers to one question do not change while a run file
is replayed.
-/
namespace Runbook

inductive FileSystem.ReadError where
  | missing (detail : Text)
  | failed (detail : Text)
  deriving DecidableEq, Repr

def FileSystem.ReadError.detail : FileSystem.ReadError → Text
  | .missing d => d
  | .failed d => d

/-- A file system as the questions that can be asked of it. A directory that cannot be listed gives
the causes, the outermost first. -/
structure FileSystem where
  has : Path → Bool
  isDirectory : Path → Bool
  isFile : Path → Bool
  list : Path → Except (List Text) (List Path)
  read : Path → Except FileSystem.ReadError Text

namespace FileSystem

def notText : ReadError := .failed "stream did not contain valid UTF-8".toList

def textOf (b : Text.Bytes) : Except ReadError Text :=
  match Text.decode? b with
  | some t => .ok t
  | none => .error notText

end FileSystem

end Runbook
