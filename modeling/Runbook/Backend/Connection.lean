import Runbook.Backend.Postgres
import Runbook.RunError

/-! # Connections

How the backend that the settings name is reached, and what is reported about it.
-/
namespace Runbook.Connection

inductive Contact where
  | log (e : Event)
  | sent (r : Postgres.Request)
  | posted (body : Json)
  deriving Repr

/-- What is reported before the target is reached for. -/
def attempt : Target → Event
  | .database s => .info ("Connecting to database ".toList ++ s.address)
  | .api s => .info ("Logging in to ".toList ++ s.url ++ " as ".toList ++ s.username)

def failure (t : Target) (causes : Causes) : RunError := .connect t.name causes.message

def searchPathReport (s : DatabaseSettings) : Event :=
  .debug ("search path set to ".toList ++ s.searchPath)

def database (s : DatabaseSettings) (server : Postgres.Server) :
    Except RunError (Script Postgres.Reply) × List Contact :=
  let (result, sent) := Postgres.connect s server
  let begun := .log (attempt (.database s)) :: sent.map .sent
  match result with
  | .error causes => (.error (failure (.database s) causes), begun)
  | .ok session => (.ok session, begun ++ [.log (searchPathReport s)])

def api {σ : Type} (transport : Transport σ) (s : ApiSettings) (state : σ) :
    Except RunError Api × σ × List Contact :=
  let (result, state', _) := Api.login transport s state
  (result.mapError (failure (.api s)), state', [.log (attempt (.api s)), .posted (Api.loginBody s)])

def unansweredCauses : Target → Causes
  | .database s => [Postgres.connectFailure s]
  | .api s => ["login request failed".toList, "POST ".toList ++ s.url ++ " failed".toList]

def unanswered (t : Target) : RunError × List Event := (failure t (unansweredCauses t), [attempt t])

end Runbook.Connection
