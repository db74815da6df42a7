import Runbook.FileSystem

/-! # Disks

A snapshot of a disk, on which paths are looked up as an operating system does: through directories
and symbolic links, from the working directory or from the root. A slash at the end of a path asks
for a directory.
-/
namespace Runbook

open Text (Bytes)

namespace Disk

abbrev Place := List Bytes

inductive Node where
  | file (content : Bytes)
  | directory
  | link (target : Path)
  deriving DecidableEq, Repr

inductive Fault where
  | missing
  | notDirectory
  | isDirectory
  | nameTooLong
  | tooManyLinks
  | zeroByte
  deriving DecidableEq, Repr

def Fault.detail : Fault → Text
  | .missing => "No such file or directory (os error 2)".toList
  | .notDirectory => "Not a directory (os error 20)".toList
  | .isDirectory => "Is a directory (os error 21)".toList
  | .nameTooLong => "File name too long (os error 36)".toList
  | .tooManyLinks => "Too many levels of symbolic links (os error 40)".toList
  | .zeroByte => "file name contained an unexpected NUL byte".toList

def nameLimit : Nat := 255

def pathLimit : Nat := 4095

/-- A look-up follows at most this many links. -/
def linkLimit : Nat := 40

end Disk

/-- The nodes below the root, each with the names that lead to it, and the working directory. -/
structure Disk where
  nodes : List (Disk.Place × Disk.Node)
  home : Disk.Place
  deriving Repr

namespace Disk

def find? (d : Disk) (place : Place) : Option Node :=
  if place = [] then some .directory else (d.nodes.find? fun n => n.1 == place).map (·.2)

/-- The place that the segments of a path lead to from a directory, following links. -/
def follow (d : Disk) (links : Nat) (place : Place) (segments : List Bytes) : Except Fault Place :=
  match segments with
  | [] => .ok place
  | s :: rest =>
    if d.find? place ≠ some .directory then .error .notDirectory
    else if s = [] ∨ s = [Path.dot] then follow d links place rest
    else if s = [Path.dot, Path.dot] then follow d links place.dropLast rest
    else if nameLimit < s.length then .error .nameTooLong
    else
      match d.find? (place ++ [s]) with
      | none => .error .missing
      | some (.link target) =>
        match links with
        | 0 => .error .tooManyLinks
        | links + 1 =>
          if target.bytes = [] then .error .missing
          else
            let start := if target.bytes.head? = some Path.slash then [] else place
            follow d links start (Path.segments target.bytes ++ rest)
      | some _ => follow d links (place ++ [s]) rest
termination_by (links, segments.length)

def locate (d : Disk) (p : Path) : Except Fault Place :=
  if p.bytes.contains 0 then .error .zeroByte
  else if p.bytes = [] then .error .missing
  else if pathLimit < p.bytes.length then .error .nameTooLong
  else
    let start := if p.bytes.head? = some Path.slash then [] else d.home
    d.follow linkLimit start (Path.segments p.bytes)

def node? (d : Disk) (p : Path) : Except Fault Node :=
  match d.locate p with
  | .ok place =>
    match d.find? place with
    | some n => .ok n
    | none => .error .missing
  | .error f => .error f

def children (d : Disk) (place : Place) : List Bytes :=
  d.nodes.filterMap fun n => if n.1 ≠ [] ∧ n.1.dropLast = place then n.1.getLast? else none

def isDirectory (d : Disk) (p : Path) : Bool :=
  match d.node? p with
  | .ok .directory => true
  | _ => false

def isFile (d : Disk) (p : Path) : Bool :=
  match d.node? p with
  | .ok (.file _) => true
  | _ => false

def readAt (d : Disk) (p : Path) : Except FileSystem.ReadError Text :=
  match d.node? p with
  | .ok (.file content) => FileSystem.textOf content
  | .ok _ => .error (.failed Fault.isDirectory.detail)
  | .error .missing => .error (.missing Fault.missing.detail)
  | .error f => .error (.failed f.detail)

def listAt (d : Disk) (p : Path) : Except (List Text) (List Path) :=
  match d.locate p with
  | .ok place =>
    if d.find? place = some .directory then .ok ((d.children place).map p.join)
    else .error [Fault.notDirectory.detail]
  | .error f => .error [f.detail]

def fileSystem (d : Disk) : FileSystem where
  has p := (d.node? p).toOption.isSome
  isDirectory := d.isDirectory
  isFile := d.isFile
  list := d.listAt
  read := d.readAt

def put (d : Disk) (place : Place) (node : Node) : Disk :=
  if (d.find? place).isSome then
    { d with nodes := d.nodes.map fun n => if n.1 = place then (place, node) else n }
  else { d with nodes := d.nodes ++ [(place, node)] }

/-- Makes a directory at every place on the way that is free. -/
def putBelow (d : Disk) (place : Place) (node : Node) : Disk :=
  let above := (List.range (place.length - 1)).map fun i => place.take (i + 1)
  let d := above.foldl (fun d q => if (d.find? q).isSome then d else d.put q .directory) d
  d.put place node

/-- The disk with a directory at the end of a path, unless something else is in the way. -/
def makeDirectory? (d : Disk) (p : Path) : Option Disk :=
  if d.isDirectory p then some d
  else if (d.node? p).toOption.isSome then none
  else
    match p.parent?, p.fileName? with
    | some above, some name =>
      match d.locate (if above.bytes = [] then ⟨[Path.dot]⟩ else above) with
      | .ok place =>
        if d.find? place = some .directory ∧ d.find? (place ++ [name]) = none then
          some (d.put (place ++ [name]) .directory)
        else none
      | .error _ => none
    | _, _ => none

/-- The paths of the directories that lead to a path, the shortest first, and the path itself. -/
def ancestry : Nat → Path → List Path
  | 0, p => [p]
  | fuel + 1, p =>
    match p.parent? with
    | some above => if above.bytes = [] then [p] else ancestry fuel above ++ [p]
    | none => [p]

def makeDirectories? (d : Disk) (p : Path) : Option Disk :=
  if p.bytes = [] then some d
  else (ancestry p.bytes.length p).foldlM makeDirectory? d

def plant? (d : Disk) (p : Path) (node : Node) : Option Disk :=
  match p.fileName? with
  | none => some d
  | some name =>
    let above := (p.parent?.filter fun q => q.bytes ≠ []).getD ⟨[Path.dot]⟩
    (d.makeDirectories? above).bind fun d =>
      match d.locate above with
      | .ok place => some (d.put (place ++ [name]) node)
      | .error _ => none

def blank (home : Place) : Disk :=
  let start : Disk := ⟨[], home⟩
  if home = [] then start else start.putBelow home .directory

/-- The free place at which a file at the end of a path is made. The directory must exist; a link to
something that is missing says where else to look. -/
def freePlace? (d : Disk) (links : Nat) (p : Path) : Option Place :=
  match p.parent?, p.fileName? with
  | some above, some name =>
    match d.locate (if above.bytes = [] then ⟨[Path.dot]⟩ else above) with
    | .ok place =>
      if d.find? place ≠ some .directory ∨ p.bytes.getLast? = some Path.slash then none
      else
        match d.find? (place ++ [name]), links with
        | none, _ => some (place ++ [name])
        | some (.link target), links + 1 => { d with home := place }.freePlace? links target
        | _, _ => none
    | .error _ => none
  | _, _ => none

def write? (d : Disk) (p : Path) (content : Bytes) : Option Disk :=
  match d.locate p with
  | .ok place =>
    match d.find? place with
    | some (.file _) => some (d.put place (.file content))
    | _ => none
  | .error _ => (d.freePlace? linkLimit p).map fun place => d.put place (.file content)

end Disk

end Runbook
