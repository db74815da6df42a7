import Runbook.Backend.Connection
import Runbook.Backend.DryRun
import Runbook.Command.Help
import Runbook.Engine
import Runbook.Log.Console
import Runbook.Settings.Load

/-! # The command

Both files must exist; then the settings are loaded, the run file is read, and the run begins, on
the target that the settings name or as a dry run.
-/
namespace Runbook.Command

/-- Where a command runs: a file system, the width of the terminal, and the database server that
answers, if there is one. -/
structure Surroundings where
  fs : FileSystem
  columns : Nat
  server : Option Postgres.Server

/-- What a command came to: what it reported, what it sent to a database server, and the causes of
its failure, the outermost first, if it failed. -/
structure Report where
  events : List Event
  requests : List Postgres.Request
  failure : Option Causes

namespace Report

def failed (causes : Causes) : Report := ⟨[], [], some causes⟩

def failedWith (e : RunError) : Report := failed (e.message :: e.causes)

def after (events : List Event) (r : Report) : Report := { r with events := events ++ r.events }

end Report

def ofProgress {σ : Type} (p : Engine.Progress σ) : Report :=
  ⟨Engine.events p.trace, (Engine.emissions p.trace).filterMap Postgres.requestOf?,
    p.failure.map fun e => e.message :: e.causes⟩

def dryRun (s : Surroundings) (text : Text) : Report :=
  ofProgress (Engine.run Backend.dryRun s.fs s.columns text (.fresh 0))

def contactEvents (contacts : List Connection.Contact) : List Event :=
  contacts.filterMap fun
    | .log e => some e
    | _ => none

def contactRequests (contacts : List Connection.Contact) : List Postgres.Request :=
  contacts.filterMap fun
    | .sent r => some r
    | _ => none

def connectFailure (settings : Settings) (e : RunError) : Causes :=
  ("using ".toList ++ settings.path.display) :: e.message :: e.causes

def liveRun (s : Surroundings) (settings : Settings) (text : Text) : Report :=
  match settings.target, s.server with
  | .database target, some server =>
    let (result, contacts) := Connection.database target server
    let rest := match result with
      | .error e => Report.failed (connectFailure settings e)
      | .ok session =>
        ofProgress (Engine.run (Backend.database Postgres.session target.adminSchema) s.fs s.columns
          text (.fresh session))
    ⟨contactEvents contacts ++ rest.events, contactRequests contacts ++ rest.requests, rest.failure⟩
  | target, _ =>
    let (e, events) := Connection.unanswered target
    ⟨events, [], some (connectFailure settings e)⟩

def readRunFile (fs : FileSystem) (path : Path) : Except RunError Text :=
  (fs.read path).mapError fun e => .io path e.detail

def requireFile (fs : FileSystem) (path : Path) : Option RunError :=
  if fs.has path then none else some (.fileNotFound path)

/-- The run, once both files are known to exist. -/
def start (s : Surroundings) (a : Arguments) : Report :=
  let (loaded, events) := Settings.load s.fs a.config
  Report.after events <|
    match loaded with
    | .error e => .failedWith (.settings e)
    | .ok settings =>
      match readRunFile s.fs a.runFile with
      | .error e => .failedWith e
      | .ok text =>
        Report.after [.stage ("Running ".toList ++ a.runFile.display)] <|
          if a.dryRun then dryRun s text else liveRun s settings text

def run (s : Surroundings) (a : Arguments) : Report :=
  Report.after [.stage (programName ++ ' ' :: version)] <|
    match (requireFile s.fs a.config).or (requireFile s.fs a.runFile) with
    | some e => .failedWith e
    | none => start s a

def referredPaths (text : Text) : List Path :=
  (RunFile.lines text).flatMap fun l =>
    match Line.parse l.text with
    | .ok (.reference r) => [r.path, Resolution.globParent r.path]
    | _ => []

/-- What is reported at the end: where the log file is, and the failure. -/
def closing (log : Option Path) (failure : Option Causes) : List Event :=
  let place := match log with
    | some path => [.info (Console.styled "2" ("log: ".toList ++ path.display))]
    | none => []
  let error := match failure with
    | some causes => [.error causes.message]
    | none => []
  place ++ error

end Runbook.Command
