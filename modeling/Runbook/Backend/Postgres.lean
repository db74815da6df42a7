import Runbook.Backend.Scripted
import Runbook.Text.Number

/-! # PostgreSQL sessions

A session with a PostgreSQL server, as the requests it sends and the messages that come back. The
server follows a script. A request is written with a zero byte at the end of every text, so a text
with such a character in it cannot be sent.
-/
namespace Runbook.Postgres

/-- The requests of a session. A startup names a database only if one was configured. -/
inductive Request where
  | startup (user : Text) (database : Option Text)
  | password (text : Text)
  | query (sql : Text)
  deriving DecidableEq, Repr

structure Report where
  severity : Text
  message : Text
  detail : Option Text
  hint : Option Text
  deriving DecidableEq, Repr

def Report.text (r : Report) : Text :=
  let more (label : Text) : Option Text → Text
    | some t => '\n' :: label ++ ": ".toList ++ t
    | none => []
  r.severity ++ ": ".toList ++ r.message ++ more "DETAIL".toList r.detail ++
    more "HINT".toList r.hint

inductive Message where
  | row
  | complete (tag : Text)
  | empty
  | notice (r : Report)
  | error (r : Report)
  deriving DecidableEq, Repr

abbrev Reply := List Message

def lastWord (t : Text) : Text := (t.reverse.takeWhile (· != ' ')).reverse

/-- Row counts have 64 bits. -/
def countLimit : Nat := Nat.pow 2 64

/-- How many rows a command tag counts: the number in its last word. -/
def countOf (tag : Text) : Nat :=
  match Text.unsigned? (lastWord tag) with
  | some n => if n < countLimit then n else 0
  | none => 0

def errorCauses (r : Report) : Causes := ["db error".toList, r.text]

/-- One message added to the rows so far, from the end of the reply. -/
def addMessage (m : Message) (rest : Except Causes Rows) : Except Causes Rows :=
  match m with
  | .error r => .error (errorCauses r)
  | .row => rest.map fun rows => { rows with returned := rows.returned + 1 }
  | .complete tag =>
    rest.map fun rows => { rows with affected := (rows.affected + countOf tag) % countLimit }
  | .empty | .notice _ => rest

/-- The rows that a reply counts, or its first error. -/
def rowsOf (reply : Reply) : Except Causes Rows := reply.foldr addMessage (.ok ⟨0, 0⟩)

def sendFault? (texts : List Text) : Option Causes :=
  if texts.any fun t => t.contains '\x00' then
    some ["error encoding message to server".toList, "string contains embedded null".toList]
  else none

inductive Authentication where
  | trust
  | password
  | reject
  deriving DecidableEq, Repr

/-- A server that follows a script: how it lets in, what it replies to the first query, and to
those after it. -/
structure Server where
  authentication : Authentication
  setup : Reply
  script : Script Reply

def rejectedReply : Reply := [.error ⟨"ERROR".toList, Script.rejection, none, none⟩]

def standingReply : Reply := [.complete "OK".toList]

def session : Session (Script Reply) where
  run sql s :=
    match sendFault? [sql] with
    | some causes => (.error causes, s)
    | none =>
      let (reply, s') := s.answer sql rejectedReply standingReply
      (rowsOf reply, s')

/-- The query that goes to the server when a backend runs a statement. -/
def requestOf? : Emission → Option Request
  | .statement sql => if (sendFault? [sql]).isNone then some (.query sql) else none
  | _ => none

def refusedPassword : Report :=
  ⟨"FATAL".toList, "password authentication failed".toList, none, none⟩

abbrev Exchange := Except Causes Unit × List Request

/-- The startup of a session and the password, if the server asks for it. -/
def authenticate (s : DatabaseSettings) (a : Authentication) : Exchange :=
  match sendFault? (s.user :: s.database.toList) with
  | some causes => (.error causes, [])
  | none =>
    let startup := Request.startup s.user s.database
    match a with
    | .trust => (.ok (), [startup])
    | .password | .reject =>
      match sendFault? [s.password] with
      | some causes => (.error causes, [startup])
      | none =>
        (if a = .reject then .error (errorCauses refusedPassword) else .ok (),
          [startup, .password s.password])

def setSearchPath (s : DatabaseSettings) : Text := "SET SEARCH_PATH = ".toList ++ s.searchPath

def prepare (s : DatabaseSettings) (setup : Reply) : Exchange :=
  match sendFault? [setSearchPath s] with
  | some causes => (.error causes, [])
  | none => ((rowsOf setup).map fun _ => (), [.query (setSearchPath s)])

def connectFailure (s : DatabaseSettings) : Text := "failed to connect to ".toList ++ s.address

def connect (s : DatabaseSettings) (server : Server) :
    Except Causes (Script Reply) × List Request :=
  match authenticate s server.authentication with
  | (.error causes, sent) => (.error (connectFailure s :: causes), sent)
  | (.ok (), sent) =>
    match prepare s server.setup with
    | (.error causes, more) =>
      (.error ("failed to set search path".toList :: causes), sent ++ more)
    | (.ok (), more) => (.ok server.script, sent ++ more)

end Runbook.Postgres
