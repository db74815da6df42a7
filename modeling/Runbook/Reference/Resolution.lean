import Runbook.Directive.Basic
import Runbook.Directive.Options
import Runbook.FileSystem
import Runbook.Log.Event
import Runbook.Pattern.Glob
import Runbook.RunError

/-! # Resolution of references

A reference stands for the files of a directory, at any depth, if it names one; else, if it has an
asterisk in it, for the files below its parent whose names match the glob; else for one file. The
files come in the order of their paths, whatever the order in which directories list them.
-/
namespace Runbook

structure Resolution (α : Type) where
  result : α
  events : List Event

namespace Resolution

inductive Error where
  | missing (path : Path)
  | unlisted (path : Path) (reason : Text)
  | unreadable (path : Path) (cause : Text)
  | options (path : Path) (cause : Options.Error)
  deriving DecidableEq, Repr

def Error.message : Error → Text
  | .missing path => "File ".toList ++ path.display ++ " does not exist".toList
  | .unlisted path reason =>
    "cannot list directory ".toList ++ path.display ++ ": ".toList ++ reason
  | .unreadable path cause => "IO error reading ".toList ++ path.display ++ ": ".toList ++ cause
  | .options path cause => path.display ++ ": ".toList ++ cause.message

def Error.atLine (line : Nat) : Error → RunError
  | .missing path => .fileNotFound path
  | .unlisted path reason => .io path reason
  | .unreadable path cause => .io path cause
  | .options path cause => .parse line (Error.options path cause).message

/-- The files below a directory, as they are listed: the entries that are no directories, and in
place of each directory the files below it. Where directories are nested without end the walk does
not end either, and has no result. -/
def walk (fs : FileSystem) (d : Path) : ExceptT Error Option (List Path) := do
  match fs.list d with
  | .error causes => throw (.unlisted d (Text.join ": ".toList causes))
  | .ok entries =>
    let found ← entries.mapM fun e => if fs.isDirectory e then (walk (d := e)) fs else pure [e]
    return found.flatten
partial_fixpoint

/-- The files below a directory in the order of their paths. Where the walk has no result the
reference has none either: nothing is sent for it, and the run does not get past it. -/
def filesBelow (fs : FileSystem) (dir : Path) : Except Error (List Path) :=
  match (walk fs dir).run with
  | some found => found.map fun files => files.mergeSort Path.le
  | none => .error (.unlisted dir "directories are nested without end".toList)

def globParent (p : Path) : Path :=
  match p.parent? with
  | some ⟨[]⟩ => ⟨[Path.dot]⟩
  | some parent => parent
  | none => ⟨[Path.dot]⟩

def globName (p : Path) : Text := Text.decodeLossy (p.fileName?.getD [])

def matchesName (r : Pattern.Regex) (file : Path) : Bool :=
  match file.fileName? with
  | some name => r.isMatch (Text.decodeLossy name)
  | none => false

/-- What is said about a glob that is no regular expression; it stands for no files. -/
def globComplaint (p : Path) (e : Pattern.Error) : Event :=
  .error ("invalid pattern '".toList ++ globName p ++ "' in ".toList ++ p.display ++
    ": ".toList ++ Pattern.Glob.errorText (globName p) e)

def globFiles (fs : FileSystem) (p : Path) : Resolution (Except Error (List Path)) :=
  match Pattern.Glob.compile (globName p) with
  | .error e => ⟨.ok [], [globComplaint p e]⟩
  | .ok r =>
    let parent := globParent p
    if fs.isDirectory parent then
      ⟨(filesBelow fs parent).map fun files => files.filter (matchesName r), []⟩
    else ⟨.error (.missing parent), []⟩

def files (fs : FileSystem) (p : Path) : Resolution (Except Error (List Path)) :=
  if fs.isDirectory p then ⟨filesBelow fs p, []⟩
  else if p.display.contains Pattern.Glob.wildcard then globFiles fs p
  else if fs.isFile p then ⟨.ok [p], []⟩
  else ⟨.error (.missing p), []⟩

/-- The directive in a file. Only a file that is registered has options. -/
def leaf (fs : FileSystem) (r : Reference) (file : Path) : Except Error Directive :=
  match fs.read file with
  | .error (.missing _) => .error (.missing file)
  | .error (.failed cause) => .error (.unreadable file cause)
  | .ok raw =>
    if r.subtype.isRegistration then
      match Options.extract raw with
      | .error e => .error (.options file e)
      | .ok (options, content) => .ok ⟨r.kind, r.subtype, options, content, some file⟩
    else .ok ⟨r.kind, r.subtype, none, raw, some file⟩

def leaves (fs : FileSystem) (r : Reference) : List Path → Except Error (List Directive)
  | [] => .ok []
  | file :: rest =>
    match leaf fs r file with
    | .error e => .error e
    | .ok d =>
      match leaves fs r rest with
      | .error e => .error e
      | .ok ds => .ok (d :: ds)

def countReport (p : Path) (n : Nat) : Event :=
  .debug (p.display ++ " resolved to ".toList ++ Text.ofNat n ++ " file(s)".toList)

end Resolution

namespace Reference

open Resolution in
def resolve (fs : FileSystem) (r : Reference) :
    Resolution (Except Resolution.Error (List Directive)) :=
  let found := files fs r.path
  match found.result with
  | .error e => ⟨.error e, found.events⟩
  | .ok paths => ⟨leaves fs r paths, found.events ++ [countReport r.path paths.length]⟩

end Reference

end Runbook
