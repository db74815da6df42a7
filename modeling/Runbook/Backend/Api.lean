import Runbook.Backend.Basic
import Runbook.Backend.Database
import Runbook.Backend.Registration
import Runbook.Json.Reader
import Runbook.Settings.Basic

/-! # Administrative APIs

Every call posts one JSON document and is judged by the `code` of the reply. A login gives the
token of the session, which every later document carries.
-/
namespace Runbook

structure Transport (σ : Type) where
  post : Json → σ → Except Causes Json × σ

structure Api where
  app : Text
  schema : Text
  session : Text
  successCode : Nat
  deriving DecidableEq, Repr

namespace Api

/-- The code of a reply, if it is a whole number that is not negative. -/
def codeOf (reply : Json) : Option Nat :=
  match reply.member? "code".toList with
  | some (.number (.whole (.ofNat n))) => some n
  | _ => none

def loginBody (s : ApiSettings) : Json :=
  .obj [("action", .string "login".toList), ("app", .string s.app),
    ("data", .obj [("username", .string s.username), ("password", .string s.password)])]

def ofLoginReply (s : ApiSettings) : Except Causes Json → Except Causes Api
  | .error causes => .error ("login request failed".toList :: causes)
  | .ok reply =>
    if codeOf reply ≠ some s.successCode then
      .error ["login rejected: ".toList ++ (Verdict.rejected reply).message]
    else
      match (reply.at? ["data".toList, "session".toList]).bind Json.text? with
      | some token => .ok ⟨s.app, s.schema, token, s.successCode⟩
      | none => .error ["login response carries no session token".toList]

def login {σ : Type} (transport : Transport σ) (s : ApiSettings) (state : σ) :
    Except Causes Api × σ × List Emission :=
  let (reply, state') := transport.post (loginBody s) state
  (ofLoginReply s reply, state', [.posted (loginBody s)])

def envelope (a : Api) (action : Text) (data : Json) : Json :=
  .obj [("action", .string action), ("session", .string a.session), ("app", .string a.app),
    ("schema", .string a.schema), ("data", data)]

def runSql (a : Api) (sql : Text) : Json :=
  a.envelope "run_sql".toList (.obj [("sql", .string sql)])

/-- A document that was written by hand: it keeps its own application and schema, but not its
session. -/
def complete (a : Api) (m : Json.Members) : Json.Members :=
  ((m.insertIfAbsent "app".toList (.string a.app)).insertIfAbsent "schema".toList
    (.string a.schema)).insert "session".toList (.string a.session)

def payload (a : Api) (content : Text) : Except Text Json :=
  match Json.parse content with
  | .error e => .error ("API payload is not valid JSON: ".toList ++ e.message)
  | .ok (.object m) => .ok (.object (a.complete m))
  | .ok _ => .error "API payload must be a JSON object".toList

def body (a : Api) (d : Directive) : Except Text Json :=
  match d.kind with
  | .api => a.payload d.content
  | .openTransaction => .ok (a.runSql Control.start.statement)
  | .commit => .ok (a.runSql Control.commit.statement)
  | .sql =>
    if d.subtype.isRegistration then
      .ok (a.envelope (Registration.action d.subtype) (Registration.document d))
    else .ok (a.runSql d.content)

def verdictOfReply (a : Api) : Except Causes Json → Verdict
  | .ok reply => if codeOf reply = some a.successCode then .ok reply else .rejected reply
  | .error causes => .failure causes.message

end Api

namespace Backend

def api {σ : Type} (transport : Transport σ) (a : Api) : Backend σ :=
  .ofExecute fun d s =>
    match a.body d with
    | .error message => ⟨.failure message, s, []⟩
    | .ok body =>
      let (reply, s') := transport.post body s
      ⟨a.verdictOfReply reply, s', [.posted body]⟩

end Backend

end Runbook
