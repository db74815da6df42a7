import Runbook.FileSystem

/-! # Virtual file systems

A file system that is a list of what was put into it. A place is the list of the names that lead to
it: empty names and `.` are left out, `..` is a name like any other, and the root counts as a name.
Everything above a place is a directory, and a directory lists what was put there last first.
-/
namespace Runbook

open Text (Bytes)

namespace Virtual

abbrev Place := List Bytes

/-- What is at a place: a file, a file that cannot be read, something listed that is neither file
nor directory, a directory, or a directory that cannot be listed. -/
inductive Node where
  | file (content : Bytes)
  | unreadable (detail : Text)
  | phantom
  | directory
  | unlistable (causes : List Text)
  deriving DecidableEq, Repr

def placeOf (p : Path) : Place :=
  (if p.bytes.head? = some Path.slash then [[Path.slash]] else []) ++
    (Path.segments p.bytes).filter fun s => s != [] && s != [Path.dot]

end Virtual

/-- The places that are known, in the order in which they were first mentioned. -/
structure Virtual where
  nodes : List (Virtual.Place × Virtual.Node)
  deriving Repr

namespace Virtual

def empty : Virtual := ⟨[]⟩

def find? (v : Virtual) (place : Place) : Option Node :=
  (v.nodes.find? fun n => n.1 == place).map (·.2)

def mention (v : Virtual) (place : Place) : Virtual :=
  if (v.find? place).isSome then v else ⟨v.nodes ++ [(place, .directory)]⟩

def set (v : Virtual) (place : Place) (node : Node) : Virtual :=
  ⟨v.nodes.map fun n => if n.1 = place then (place, node) else n⟩

def put (v : Virtual) (p : Path) (node : Node) : Virtual :=
  let place := placeOf p
  let prefixes := (List.range place.length).map fun i => place.take (i + 1)
  (prefixes.foldl mention v).set place node

def children (v : Virtual) (place : Place) : List Bytes :=
  (v.nodes.filterMap fun n =>
    match n.1.getLast? with
    | some name => if n.1.dropLast = place ∧ name ≠ [Path.slash] then some name else none
    | none => none).reverse

def isDirectoryAt (v : Virtual) (place : Place) : Bool :=
  place.isEmpty || match v.find? place with
    | some .directory => true
    | some (.unlistable _) => true
    | _ => !(v.children place).isEmpty

def isFileAt (v : Virtual) (place : Place) : Bool :=
  match v.find? place with
  | some (.file _) => true
  | some (.unreadable _) => true
  | _ => false

def listAt (v : Virtual) (p : Path) : Except (List Text) (List Path) :=
  match v.find? (placeOf p) with
  | some (.unlistable causes) => .error causes
  | _ => .ok ((v.children (placeOf p)).map p.join)

def readAt (v : Virtual) (p : Path) : Except FileSystem.ReadError Text :=
  let place := placeOf p
  if p.bytes = [] then .error (.missing "no such file".toList)
  else
    match v.find? place with
    | some (.file content) => FileSystem.textOf content
    | some (.unreadable detail) => .error (.failed detail)
    | some .phantom => .error (.missing "no such file".toList)
    | _ =>
      if v.isDirectoryAt place then .error (.failed "is a directory".toList)
      else .error (.missing "no such file".toList)

/-- The empty path names nothing; every other path names its place. -/
def fileSystem (v : Virtual) : FileSystem where
  has p := p.bytes != [] && (v.isDirectoryAt (placeOf p) || v.isFileAt (placeOf p))
  isDirectory p := p.bytes != [] && v.isDirectoryAt (placeOf p)
  isFile p := p.bytes != [] && v.isFileAt (placeOf p)
  list := v.listAt
  read := v.readAt

end Virtual

end Runbook
