import Runbook.Path

/-! # Settings

A run has one target: a database or an administrative API.
-/
namespace Runbook

structure DatabaseSettings where
  host : Text
  port : Nat
  user : Text
  password : Text
  database : Option Text
  schema : Option Text
  adminSchema : Text
  deriving DecidableEq, Repr

structure ApiSettings where
  url : Text
  username : Text
  password : Text
  app : Text
  schema : Text
  timeoutSeconds : Nat
  successCode : Nat
  deriving DecidableEq, Repr

namespace DatabaseSettings

def userEnding : Text := "_user".toList

/-- The schema of the application: the given one, or the user name without its ending. -/
def effectiveSchema (s : DatabaseSettings) : Text :=
  match s.schema with
  | some schema => schema
  | none => (Text.before? userEnding s.user).getD s.user

def searchPath (s : DatabaseSettings) : Text :=
  Text.join ", ".toList [s.effectiveSchema, "public".toList, s.adminSchema]

/-- The user and the server, as messages name them. -/
def address (s : DatabaseSettings) : Text :=
  s.user ++ '@' :: s.host ++ ':' :: Text.ofNat s.port

end DatabaseSettings

inductive Target where
  | database (s : DatabaseSettings)
  | api (s : ApiSettings)
  deriving DecidableEq, Repr

def Target.name : Target → Text
  | .database _ => "database".toList
  | .api _ => "api".toList

structure Settings where
  path : Path
  target : Target
  deriving DecidableEq, Repr

end Runbook
