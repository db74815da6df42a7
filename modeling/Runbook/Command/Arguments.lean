import Runbook.Log.File
import Runbook.Text.Number

/-! # Arguments

The command takes flags and up to three positional arguments: the configuration, the run file and a
debug level. A value is looked at when the next argument is taken, or at the end; what is wrong with
the next argument's own form comes first.
-/
namespace Runbook.Command

inductive Flag where
  | verbose
  | dryRun
  | help
  | version
  deriving DecidableEq, Repr

namespace Flag

def long : Flag → Text
  | .verbose => "verbose".toList
  | .dryRun => "dry-run".toList
  | .help => "help".toList
  | .version => "version".toList

def short : Flag → Char
  | .verbose => 'v'
  | .dryRun => 'd'
  | .help => 'h'
  | .version => 'V'

def all : List Flag := [.verbose, .dryRun, .help, .version]

def ofLong? (name : Text) : Option Flag := all.find? fun f => f.long == name

def ofShort? (c : Char) : Option Flag := all.find? fun f => f.short == c

end Flag

structure Arguments where
  config : Path
  runFile : Path
  debugLevel : Nat
  verbose : Bool
  dryRun : Bool
  deriving DecidableEq, Repr

/-- The debug level that counts: verbose runs have at least level one. -/
def Arguments.effectiveLevel (a : Arguments) : Nat :=
  if a.verbose then max a.debugLevel 1 else a.debugLevel

def Arguments.header (a : Arguments) : LogFile.Header :=
  ⟨a.config, a.runFile, a.effectiveLevel, a.dryRun⟩

inductive Halt where
  | help
  | version
  | unknownArgument
  | argumentConflict
  | tooManyValues
  | invalidValue
  | valueValidation
  | missingRequired (flags : List Flag) (given : Nat)
  deriving DecidableEq, Repr

structure Taken where
  flags : List Flag
  values : List Text

def levelMax : Nat := 255

def level? (t : Text) : Option Nat :=
  match Text.signed? t with
  | some n => if 0 ≤ n ∧ n ≤ levelMax then some n.toNat else none
  | none => none

def valueFault? (place : Nat) (value : Text) : Option Halt :=
  if place < 2 then if value = [] then some .invalidValue else none
  else if (level? value).isNone then some .valueValidation else none

def Taken.pending? (s : Taken) : Option Halt :=
  match s.values.getLast? with
  | some v => valueFault? (s.values.length - 1) v
  | none => none

def Taken.addFlag (s : Taken) (f : Flag) : Except Halt Taken :=
  match s.pending? with
  | some h => .error h
  | none =>
    match f with
    | .help => .error .help
    | .version => .error .version
    | f => if s.flags.contains f then .error .argumentConflict
      else .ok { s with flags := s.flags ++ [f] }

def Taken.addShort (s : Taken) : Text → Except Halt Taken
  | [] => .ok s
  | c :: t =>
    match Flag.ofShort? c with
    | none => .error .unknownArgument
    | some f =>
      match s.addFlag f with
      | .error h => .error h
      | .ok s => s.addShort t

def Taken.addLong (s : Taken) (t : Text) : Except Halt Taken :=
  match Text.splitOnce? ['='] t with
  | some (name, _) =>
    .error (if (Flag.ofLong? name).isSome then .tooManyValues else .unknownArgument)
  | none =>
    match Flag.ofLong? t with
    | some f => s.addFlag f
    | none => .error .unknownArgument

def valueLimit : Nat := 3

def Taken.addValue (s : Taken) (t : Text) : Except Halt Taken :=
  if s.values.length = valueLimit then .error .unknownArgument
  else
    match s.pending? with
    | some h => .error h
    | none => .ok { s with values := s.values ++ [t] }

/-- Takes an argument that is not behind two hyphens. -/
def Taken.add (s : Taken) (t : Text) : Except Halt Taken :=
  match t with
  | '-' :: '-' :: name => s.addLong name
  | '-' :: c :: rest => s.addShort (c :: rest)
  | t => s.addValue t

/-- Takes arguments one by one; after two hyphens alone all of them are positional. -/
def Taken.addAll (onlyValues : Bool) : List Text → Taken → Except Halt Taken
  | [], s => .ok s
  | t :: rest, s =>
    if onlyValues then (s.addValue t).bind (addAll true rest)
    else if t = "--".toList then addAll true rest s
    else (s.add t).bind (addAll false rest)

def Taken.finish (s : Taken) : Except Halt Arguments :=
  match s.pending? with
  | some h => .error h
  | none =>
    match s.values with
    | config :: runFile :: more =>
      .ok ⟨.ofText config, .ofText runFile, (more.head?.bind level?).getD 0,
        s.flags.contains .verbose, s.flags.contains .dryRun⟩
    | few => .error (.missingRequired s.flags few.length)

def parse (arguments : List Text) : Except Halt Arguments :=
  (Taken.addAll false arguments ⟨[], []⟩).bind Taken.finish

end Runbook.Command
