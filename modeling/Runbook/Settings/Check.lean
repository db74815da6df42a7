import Runbook.Settings.Basic
import Runbook.Settings.Error
import Runbook.Text.Blank

/-! # Checks of settings

Settings with which nothing can be reached are refused. Settings that are probably mistakes are
warned of.
-/
namespace Runbook

structure Warning where
  source : Text
  item : Text
  message : Text
  deriving DecidableEq, Repr

def Warning.text (w : Warning) : Text := w.source ++ '.' :: w.item ++ ": ".toList ++ w.message

namespace Settings

def blankField (table field value : Text) : Option SettingsError :=
  if Text.isBlankText value then
    some (.invalid (table ++ '.' :: field) "must not be empty".toList)
  else none

/-- Why a target cannot be reached, if that can be told from its settings. -/
def fault? : Target → Option SettingsError
  | .database s =>
    (blankField "database".toList "host".toList s.host).or <|
      (blankField "database".toList "user".toList s.user).or <|
        if s.port = 0 then
          some (.invalid "database.port".toList "must be between 1 and 65535".toList)
        else none
  | .api s => blankField "api".toList "url".toList s.url

def clearTextScheme : Text := "http://".toList

def warnIf (condition : Bool) (source item : String) (message : Text) : List Warning :=
  if condition then [⟨source.toList, item.toList, message⟩] else []

def warnings : Target → List Warning
  | .database s =>
    warnIf s.password.isEmpty "database" "password" "password is empty".toList ++
      warnIf (s.schema.any Text.isBlankText) "database" "schema"
        "schema is empty; only public and the admin schema will be searched".toList
  | .api s =>
    warnIf s.password.isEmpty "api" "password" "password is empty".toList ++
      warnIf (Text.startsWith clearTextScheme (Text.lowerAscii s.url)) "api" "url"
        (s.url ++ " is not encrypted; credentials are sent in clear text".toList) ++
      warnIf (Text.isBlankText s.schema) "api" "schema" "schema is empty".toList

end Settings

end Runbook
