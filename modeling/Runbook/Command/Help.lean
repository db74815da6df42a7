import Runbook.Command.Arguments

/-! # Texts of the command line -/
namespace Runbook.Command

def programName : Text := "apipush".toList

def version : Text := "0.1.0".toList

def unlines (lines : List Text) : Text := lines.flatMap fun l => l ++ ['\n']

def positionals : List Text := ["<CONFIG>".toList, "<RUN_FILE>".toList, "[DEBUG_LEVEL]".toList]

def usage (options : List Text) : Text :=
  Text.join [' '] ("Usage:".toList :: programName :: options ++ positionals)

def versionText : Text := unlines [programName ++ ' ' :: version]

def helpText : Text := unlines [
  "Replay a run file of SQL and API directives against a database or admin API".toList,
  [],
  usage ["[OPTIONS]".toList],
  [],
  "Arguments:".toList,
  "  <CONFIG>       Connection configuration (TOML with a [database] or [api] table)".toList,
  "  <RUN_FILE>     Run file listing the directives to execute".toList,
  "  [DEBUG_LEVEL]  Numeric debug level; backend responses are shown from level 5 [default: 0]".toList,
  [],
  "Options:".toList,
  "  -v, --verbose  Enable verbose output (debug level at least 1)".toList,
  "  -d, --dry-run  Log each directive instead of sending it".toList,
  "  -h, --help     Print help".toList,
  "  -V, --version  Print version".toList]

def complaint (error : List Text) (options : List Text) : Text :=
  unlines (error ++ [[], usage options, [], "For more information, try '--help'.".toList])

def Halt.text : Halt → Text
  | .help => helpText
  | .version => versionText
  | .missingRequired flags given =>
    complaint ("error: the following required arguments were not provided:".toList ::
      ((positionals.take 2).drop given).map fun p => ' ' :: ' ' :: p)
      (flags.map fun f => '-' :: '-' :: f.long)
  | .unknownArgument => complaint ["error: unexpected argument found".toList] ["[OPTIONS]".toList]
  | .argumentConflict =>
    complaint ["error: a flag cannot be used multiple times".toList] ["[OPTIONS]".toList]
  | .tooManyValues => complaint ["error: unexpected value for a flag".toList] ["[OPTIONS]".toList]
  | .invalidValue => complaint ["error: a value is required".toList] ["[OPTIONS]".toList]
  | .valueValidation =>
    complaint ["error: invalid value for '[DEBUG_LEVEL]'".toList] ["[OPTIONS]".toList]

def Halt.isError : Halt → Bool
  | .help => false
  | .version => false
  | _ => true

end Runbook.Command
