import Runbook.Directive.Basic
import Runbook.Json.Printer

/-! # Registrations

A report, filter or script is registered with a document that holds its name, its content and its
options. In SQL the document stands in a string literal, in which a single quote is written twice.
-/
namespace Runbook.Registration

def document (d : Directive) : Json :=
  .obj [("name", .string d.name), ("content", .string d.content),
    ("options", .object (d.options.getD []))]

def action (s : Subtype) : Text := "register_".toList ++ s.tag

def quoteMark : Char := '\x27'

def doubleQuotes (t : Text) : Text :=
  t.flatMap fun c => if c = quoteMark then [quoteMark, quoteMark] else [c]

def literal (t : Text) : Text := quoteMark :: doubleQuotes t ++ [quoteMark]

def statement (schema : Text) (d : Directive) : Text :=
  "SELECT ".toList ++ schema ++ '.' :: action d.subtype ++ '(' ::
    literal (document d).render ++ "::json)".toList

end Runbook.Registration
