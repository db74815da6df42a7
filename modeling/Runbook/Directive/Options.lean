import Runbook.Json.Reader
import Runbook.Text.Blank
import Runbook.Text.Quoted

/-! # Options

A file that is registered may begin with marker lines, each an exclamation mark, a name, a colon and
a JSON value. They are taken off the content and become its options; of two markers with one name
the later counts.
-/
namespace Runbook.Options

open Json (Members)

inductive Error where
  | malformed (line : Text)
  | invalidJson (name : Text) (cause : Json.ReadError)
  deriving DecidableEq, Repr

def Error.message : Error → Text
  | .malformed line =>
    "malformed option marker ".toList ++ Text.quote line ++ ": expected '!<name>:<json>'".toList
  | .invalidJson name cause =>
    "option '".toList ++ name ++ "' is not valid JSON: ".toList ++ cause.message

def cutLine (t : Text) : Text × Text := (Text.splitOnce? ['\n'] t).getD (t, [])

def marker? (line : Text) : Option Text := Text.after? ['!'] (Text.trim line)

def parseMarker (line marker : Text) : Except Error (Text × Json) :=
  match Text.splitOnce? [':'] marker with
  | none => .error (.malformed (Text.trim line))
  | some (before, raw) =>
    let name := Text.trim before
    if name = [] then .error (.malformed (Text.trim line))
    else
      match Json.parse (Text.trim raw) with
      | .ok value => .ok (name, value)
      | .error cause => .error (.invalidJson name cause)

/-- The options so far with those at the beginning of the rest, and what follows them. Every round
takes a line off, so the length of the rest is fuel enough. -/
def extractFrom : Nat → Members → Text → Except Error (Members × Text)
  | 0, options, rest => .ok (options, rest)
  | fuel + 1, options, rest =>
    let (line, remainder) := cutLine rest
    match marker? line with
    | none => .ok (options, rest)
    | some marker =>
      match parseMarker line marker with
      | .error e => .error e
      | .ok (name, value) =>
        if remainder = [] then .ok (options.insert name value, [])
        else extractFrom fuel (options.insert name value) remainder

def extract (content : Text) : Except Error (Option Members × Text) :=
  match extractFrom (content.length + 1) [] content with
  | .error e => .error e
  | .ok ([], _) => .ok (none, content)
  | .ok (options, rest) => .ok (some options, rest)

end Runbook.Options
