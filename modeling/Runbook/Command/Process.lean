import Runbook.Command.Environment
import Runbook.Command.Run
import Runbook.FileSystem.Disk
import Runbook.Log.Console

/-! # The command as a process

The command with its arguments, its environment and a disk, and what it leaves: an exit code, what
was written to the terminal, and the disk with the log file. The log file is begun before the run; a
run that finds no place for it goes without.
-/
namespace Runbook.Command

structure Launch where
  arguments : List Text
  environment : Environment
  disk : Disk
  server : Option Postgres.Server

structure Exit where
  code : Nat
  output : Text
  error : Text
  disk : Disk
  requests : List Postgres.Request

/-- The time at which a process runs: its date and time, and its time of day. -/
structure Moment where
  date : Text
  time : Text

/-- The disk with the directory for the log file, and the path of that file; nothing if there can
be no such directory. -/
def prepareLog (env : Environment) (d : Disk) : Option (Disk × Path) :=
  (d.makeDirectories? env.logDirectory).map fun d => (d, env.logFile)

def writeText (d : Disk) (p : Path) (t : Text) : Disk := (d.write? p (Text.encode t)).getD d

def Launch.carryOut (l : Launch) (now : Moment) (a : Arguments) : Exit :=
  let log := prepareLog l.environment l.disk
  let header := a.header.text now.date
  let begun := match log with
    | some (d, p) => writeText d p header
    | none => l.disk
  let report := run ⟨begun.fileSystem, l.environment.columns, l.server⟩ a
  let events := report.events ++ closing (log.map (·.2)) report.failure
  let level := a.effectiveLevel
  let left := match log with
    | some (_, p) => writeText begun p (header ++ LogFile.lines level now.time events)
    | none => begun
  ⟨if report.failure.isSome then 1 else 0, Console.transcript level .output events,
    Console.transcript level .error events, left, report.requests⟩

def Launch.halt (l : Launch) (h : Halt) : Exit :=
  if h.isError then ⟨1, [], h.text, l.disk, []⟩ else ⟨0, h.text, [], l.disk, []⟩

def Launch.execute (l : Launch) (now : Moment) : Exit :=
  match parse l.arguments with
  | .ok a => l.carryOut now a
  | .error h => l.halt h

end Runbook.Command
