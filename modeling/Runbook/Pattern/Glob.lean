import Runbook.Pattern.Diagnosis

/-! # Globs

A glob is a regular expression in which an asterisk stands for any number of characters, between an
anchor for the beginning and one for the end.
-/
namespace Runbook.Pattern.Glob

def wildcard : Char := '*'

def source (glob : Text) : Text :=
  '^' :: glob.flatMap (fun c => if c = wildcard then ".*".toList else [c]) ++ ['$']

def compile (glob : Text) : Except Error Regex := parse (source glob)

def errorText (glob : Text) : Error → Text
  | .malformed =>
    let pattern := source glob
    match fault? pattern with
    | some e => e.message pattern
    | none => "regex parse error:".toList
  | .tooLarge => "Compiled regex exceeds size limit of 10485760 bytes.".toList

end Runbook.Pattern.Glob
