import Runbook.FileSystem

/-! # Surveys

A file system that was looked at beforehand: what was found under each path, written as it will be
asked for. Under every other path there is nothing.
-/
namespace Runbook

inductive Survey.Finding where
  | file (content : Text.Bytes)
  | unreadable (detail : Text)
  | directory (names : List Text.Bytes)
  | unlistable (detail : Text)

structure Survey where
  findings : List (Path × Survey.Finding)

namespace Survey

def find? (s : Survey) (p : Path) : Option Finding :=
  (s.findings.find? fun f => f.1 == p).map (·.2)

def add (s : Survey) (p : Path) (f : Finding) : Survey := ⟨(p, f) :: s.findings⟩

def missing : FileSystem.ReadError := .missing "No such file or directory (os error 2)".toList

def isDirectory : FileSystem.ReadError := .failed "Is a directory (os error 21)".toList

def readAt (s : Survey) (p : Path) : Except FileSystem.ReadError Text :=
  match s.find? p with
  | some (.file content) => FileSystem.textOf content
  | some (.unreadable detail) => .error (.failed detail)
  | some _ => .error isDirectory
  | none => .error missing

def listAt (s : Survey) (p : Path) : Except (List Text) (List Path) :=
  match s.find? p with
  | some (.directory names) => .ok (names.map p.join)
  | some (.unlistable detail) => .error [detail]
  | _ => .error [missing.detail]

def fileSystem (s : Survey) : FileSystem where
  has p := (s.find? p).isSome
  isDirectory p := match s.find? p with
    | some (.directory _) => true
    | some (.unlistable _) => true
    | _ => false
  isFile p := match s.find? p with
    | some (.file _) => true
    | some (.unreadable _) => true
    | _ => false
  list := s.listAt
  read := s.readAt

end Survey

end Runbook
