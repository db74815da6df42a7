import Runbook.Directive.Basic
import Runbook.Text.Blank
import Runbook.Text.Quoted

/-! # Directive lines

A line has a tag, a colon and a space, and a content. White space around the tag does not count, nor
does the case of its ASCII letters. A tag `FILE/SQL` or `FILE/API`, which a slash and a subtype may
follow, makes the content a path; white space around a path does not count.
-/
namespace Runbook

inductive Line where
  | literal (d : Directive)
  | reference (r : Reference)

namespace Line

inductive Error where
  | missingSeparator (line : Text)
  | unknownKind (tag : Text)
  | unknownSubtype (kind subtype : Text)
  | emptyPath (kind : Text)
  deriving DecidableEq, Repr

def Error.message : Error → Text
  | .missingSeparator line =>
    "malformed directive ".toList ++ Text.quote line ++ ": expected '<kind>: <content>'".toList
  | .unknownKind tag => "unknown directive '".toList ++ tag ++ "'".toList
  | .unknownSubtype kind subtype =>
    "unknown subtype '".toList ++ subtype ++ "' for '".toList ++ kind ++ "'".toList
  | .emptyPath kind => "'".toList ++ kind ++ "' requires a path".toList

def separator : Text := ": ".toList

def fileMark : Text := "FILE/".toList

def fileKind? (tag : Text) : Option Kind :=
  match Kind.ofTag? tag with
  | some .sql => some .sql
  | some .api => some .api
  | _ => none

/-- Only SQL can be registered. -/
def admits (kind : Kind) (subtype : Subtype) : Bool := kind == .sql || !subtype.isRegistration

/-- A reference, from its whole tag as written, the capitals after the file mark, and the
content. -/
def parseReference (tag rest content : Text) : Except Error Reference :=
  let (kindTag, subtypeTag) := match Text.splitOnce? ['/'] rest with
    | some (k, s) => (k, some s)
    | none => (rest, none)
  match fileKind? kindTag with
  | none => .error (.unknownKind tag)
  | some kind =>
    let subtype := match subtypeTag with
      | none => some Subtype.raw
      | some s => (Subtype.ofTag? s).filter (admits kind)
    match subtype with
    | none => .error (.unknownSubtype tag (Text.lowerAscii (subtypeTag.getD [])))
    | some subtype =>
      match Text.trim content with
      | [] => .error (.emptyPath tag)
      | path => .ok ⟨kind, subtype, Path.ofText path⟩

def parse (line : Text) : Except Error Line :=
  match Text.splitOnce? separator line with
  | none => .error (.missingSeparator line)
  | some (before, content) =>
    let tag := Text.trim before
    let capitals := Text.upperAscii tag
    match Text.after? fileMark capitals with
    | some rest => (parseReference tag rest content).map .reference
    | none =>
      match Kind.ofTag? capitals with
      | some kind => .ok (.literal (.literal kind content))
      | none => .error (.unknownKind tag)

end Line

end Runbook
