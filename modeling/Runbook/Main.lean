import Std.Time.Format
import Runbook.Command.Process
import Runbook.FileSystem.Survey

/-! # The program

Looks at the files that a run can ask for, carries out the command, and writes what it reports.
It makes no network connection: only dry runs get beyond the attempt to connect.
-/
namespace Runbook.Program

open Command

def variableNames : List String := ["COLUMNS", "XDG_CACHE_HOME", "HOME", "USERPROFILE"]

def environment : IO Environment :=
  variableNames.filterMapM fun name => do
    pure ((← IO.getEnv name).map fun value => (name.toList, value.toList))

def now : IO Moment := do
  let moment ← Std.Time.Timestamp.now
  let civil := Std.Time.PlainDateTime.ofWallTime (.ofSeconds moment.toSecondsSinceUnixEpoch)
  pure ⟨(civil.format "uuuu-MM-dd HH:mm:ss").toList, (civil.format "HH:mm:ss").toList⟩

def attempt {α : Type} (action : IO α) : IO (Except Text α) :=
  try pure (.ok (← action)) catch e => pure (.error (toString e).toList)

def nameOf (p : Path) : String := String.ofList p.display

/-- How deep directories are looked into. -/
def depthLimit : Nat := 256

def look : Nat → Survey → Path → IO Survey
  | 0, s, _ => pure s
  | depth + 1, s, p => do
    let here := (← IO.currentDir) / nameOf p
    if p.bytes.isEmpty || (s.find? p).isSome || !(← here.pathExists) then pure s
    else if ← here.isDir then
      match ← attempt here.readDir with
      | .error detail => pure (s.add p (.unlistable detail))
      | .ok entries =>
        let names := entries.toList.map fun e => Text.encode e.fileName.toList
        (names.map p.join).foldlM (look depth) (s.add p (.directory names))
    else
      match ← attempt (IO.FS.readBinFile here) with
      | .error detail => pure (s.add p (.unreadable detail))
      | .ok content => pure (s.add p (.file content.toList))

def survey (a : Arguments) : IO Survey := do
  let s ← [a.config, a.runFile].foldlM (look depthLimit) ⟨[]⟩
  match s.readAt a.runFile with
  | .error _ => pure s
  | .ok text => (referredPaths text).foldlM (look depthLimit) s

/-- The log file with its header, if there is a place for it. -/
def beginLog (env : Environment) (header : Text) : IO (Option Path) := do
  match ← attempt (IO.FS.createDirAll (nameOf env.logDirectory)) with
  | .error _ => pure none
  | .ok _ =>
    let _ ← attempt (IO.FS.writeFile (nameOf env.logFile) (String.ofList header))
    pure (some env.logFile)

def appendTo (p : Path) (t : Text) : IO Unit := do
  let _ ← attempt do
    let file ← IO.FS.Handle.mk (nameOf p) .append
    file.putStr (String.ofList t)

def carryOut (a : Arguments) : IO UInt32 := do
  let env ← environment
  let log ← beginLog env (a.header.text (← now).date)
  let s ← survey a
  let report := run ⟨s.fileSystem, env.columns, none⟩ a
  let events := report.events ++ closing log report.failure
  let level := a.effectiveLevel
  (← IO.getStdout).putStr (String.ofList (Console.transcript level .output events))
  (← IO.getStderr).putStr (String.ofList (Console.transcript level .error events))
  if let some p := log then
    appendTo p (LogFile.lines level (← now).time events)
  pure (if report.failure.isSome then 1 else 0)

def halt (h : Halt) : IO UInt32 := do
  if h.isError then
    (← IO.getStderr).putStr (String.ofList h.text)
    pure 1
  else
    (← IO.getStdout).putStr (String.ofList h.text)
    pure 0

end Runbook.Program

def main (arguments : List String) : IO UInt32 :=
  match Runbook.Command.parse (arguments.map String.toList) with
  | .ok a => Runbook.Program.carryOut a
  | .error h => Runbook.Program.halt h
