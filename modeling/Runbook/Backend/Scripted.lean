import Runbook.Backend.Api
import Runbook.Backend.Database

/-! # Scripted answers

Backends, sessions and transports that answer from a script. A call whose text contains one of the
script's needles fails and uses up no reply; every other call takes the next reply, or the standing
one when there is none left.
-/
namespace Runbook

structure Script (α : Type) where
  needles : List Text
  replies : List α

namespace Script

/-- The answer to a call with the given text, and the script after it. -/
def answer {α : Type} (s : Script α) (call : Text) (failure standing : α) : α × Script α :=
  if s.needles.any (Text.occursIn · call) then (failure, s)
  else
    match s.replies with
    | [] => (standing, s)
    | r :: rest => (r, { s with replies := rest })

def rejection : Text := "rejected".toList

end Script

namespace Backend

def recorderStanding : Verdict := .ok (.obj [("ok", .bool true)])

/-- The text of a call in which needles are looked for. -/
def callText : Call → Text
  | .execute d => d.kind.tag ++ '/' :: d.subtype.tag ++ ": ".toList ++ d.content
  | .control c => c.statement

def record (c : Call) (s : Script Verdict) : Answer (Script Verdict) :=
  let (verdict, s') := s.answer (callText c) (.failure Script.rejection) recorderStanding
  ⟨verdict, s', [.received c]⟩

def recorder : Backend (Script Verdict) where
  execute d := record (.execute d)
  transaction c := record (.control c)

/-- A backend that notes every call and knows nothing of transactions. -/
def plainRecorder : Backend (Script Verdict) := .ofExecute fun d => record (.execute d)

end Backend

def Session.scripted : Session (Script (Except Causes Rows)) where
  run sql s := s.answer sql (.error [Script.rejection]) (.ok ⟨0, 0⟩)

def Transport.standing : Json :=
  .obj [("code", .nat 200), ("data", .obj [("session", .string "tok-1".toList)])]

def Transport.scripted : Transport (Script (Except Causes Json)) where
  post body s := s.answer body.render (.error [Script.rejection]) (.ok Transport.standing)

end Runbook
