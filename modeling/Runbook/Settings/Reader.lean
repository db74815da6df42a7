import Runbook.Settings.Check
import Runbook.Settings.Fields
import Runbook.Toml.Document

/-! # Reading settings

A configuration file is a TOML document with one table, `database` or `api`.
-/
namespace Runbook

open Fields

namespace DatabaseSettings

def defaults : DatabaseSettings := ⟨[], 5432, [], [], none, none, "ng_rest".toList⟩

/-- Settings that are being read, with the names of the required fields that were met. -/
structure Draft where
  settings : DatabaseSettings
  met : List Text

def required (name : String) (store : Text → DatabaseSettings → DatabaseSettings) :
    RecordField Draft :=
  field name Fields.text fun t d => ⟨store t d.settings, name.toList :: d.met⟩

def optional {α : Type} (name : String) (read : Toml.Value → Except Text α)
    (store : α → DatabaseSettings → DatabaseSettings) : RecordField Draft :=
  field name read fun a d => { d with settings := store a d.settings }

def shape : Shape Draft where
  name := "DatabaseConfig".toList
  fields := [
    required "host" fun t s => { s with host := t },
    optional "port" word16 fun n s => { s with port := n },
    required "user" fun t s => { s with user := t },
    optional "password" Fields.text fun t s => { s with password := t },
    optional "database" Fields.text fun t s => { s with database := some t },
    optional "schema" Fields.text fun t s => { s with schema := some t },
    optional "admin_schema" Fields.text fun t s => { s with adminSchema := t }]
  start := ⟨defaults, []⟩
  required := ["host".toList, "user".toList].map fun name => (name, fun d => d.met.contains name)

def ofValue (v : Toml.Value) : Except Text DatabaseSettings := (shape.read v).map (·.settings)

end DatabaseSettings

namespace ApiSettings

def defaults : ApiSettings := ⟨[], [], [], [], [], 30, 200⟩

structure Draft where
  settings : ApiSettings
  located : Bool

def optional {α : Type} (name : String) (read : Toml.Value → Except Text α)
    (store : α → ApiSettings → ApiSettings) : RecordField Draft :=
  field name read fun a d => { d with settings := store a d.settings }

def shape : Shape Draft where
  name := "ApiConfig".toList
  fields := [
    field "url" Fields.text fun t d => ⟨{ d.settings with url := t }, true⟩,
    optional "username" Fields.text fun t s => { s with username := t },
    optional "password" Fields.text fun t s => { s with password := t },
    optional "app" Fields.text fun t s => { s with app := t },
    optional "schema" Fields.text fun t s => { s with schema := t },
    optional "timeout_secs" word64 fun n s => { s with timeoutSeconds := n },
    optional "success_code" word16 fun n s => { s with successCode := n }]
  start := ⟨defaults, false⟩
  required := [("url".toList, Draft.located)]

def ofValue (v : Toml.Value) : Except Text ApiSettings := (shape.read v).map (·.settings)

end ApiSettings

namespace Settings

structure Tables where
  database : Option DatabaseSettings
  api : Option ApiSettings

def shape : Shape Tables where
  name := "ConfigFile".toList
  fields := [
    field "database" DatabaseSettings.ofValue fun s t => { t with database := some s },
    field "api" ApiSettings.ofValue fun s t => { t with api := some s }]
  start := ⟨none, none⟩
  required := []

def Tables.target : Tables → Except SettingsError Target
  | ⟨some s, none⟩ => .ok (.database s)
  | ⟨none, some s⟩ => .ok (.api s)
  | ⟨none, none⟩ => .error .missingTarget
  | ⟨some _, some _⟩ => .error .ambiguousTarget

/-- The settings in a text; messages name the file. -/
def parse (text : Text) (path : Path) : Except SettingsError Settings :=
  match Toml.parse text with
  | .error e => .error (.notToml ⟨path.display, e.message⟩)
  | .ok entries =>
    match shape.ofTable entries with
    | .error m => .error (.malformed path.display m)
    | .ok tables =>
      match tables.target with
      | .error e => .error e
      | .ok target =>
        match fault? target with
        | some e => .error e
        | none => .ok ⟨path, target⟩

end Settings

end Runbook
