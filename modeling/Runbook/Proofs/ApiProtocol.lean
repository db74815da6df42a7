import Runbook.Backend.Api
import Runbook.Backend.Scripted
import Runbook.Proofs.JsonMembers

/-! # The protocol of an API

After a login every call posts one document or, when a document that was written by hand is none,
nothing. Each document carries the token of the login. A call is accepted when the reply is an object
with the expected code.
-/
namespace Runbook

variable {σ : Type}

structure Turn (σ : Type) where
  call : Call
  state : σ
  answer : Answer σ

def Backend.turns (b : Backend σ) : List Call → σ → List (Turn σ)
  | [], _ => []
  | c :: cs, x => ⟨c, x, b.call c x⟩ :: b.turns cs (b.call c x).state

theorem Backend.forall_mem_turns {b : Backend σ} {P : Turn σ → Prop}
    (h : ∀ c x, P ⟨c, x, b.call c x⟩) (cs : List Call) (x : σ) : ∀ t ∈ b.turns cs x, P t := by
  induction cs generalizing x with
  | nil =>
    intro t ht
    cases ht
  | cons c cs ih => exact List.forall_mem_cons.mpr ⟨h c x, ih _⟩

namespace Api

/-- A directive for the API whose content is not the text of an object. -/
def Unfit (c : Call) : Prop :=
  ∃ d, c = .execute d ∧ d.kind = .api ∧ ∀ m, Json.parse d.content ≠ .ok (.object m)

/-- A document that was written by hand gets the session, and an application and a schema where it
names none. -/
structure Completes (a : Api) (m m' : Json.Members) : Prop where
  ordered : Json.Ordered m'
  session : m'.get? "session".toList = some (.string a.session)
  app : m'.get? "app".toList = some ((m.get? "app".toList).getD (.string a.app))
  schema : m'.get? "schema".toList = some ((m.get? "schema".toList).getD (.string a.schema))
  others : ∀ name, name ≠ "session".toList → name ≠ "app".toList → name ≠ "schema".toList →
    m'.get? name = m.get? name

def wrapped (a : Api) (action : Text) (data : Json) : Json :=
  .object [("action".toList, .string action), ("app".toList, .string a.app), ("data".toList, data),
    ("schema".toList, .string a.schema), ("session".toList, .string a.session)]

def sqlData (sql : Text) : Json := .object [("sql".toList, .string sql)]

inductive Request (a : Api) : Call → Json → Prop
  | payload {d : Directive} {m m' : Json.Members} (kind : d.kind = .api)
      (parsed : Json.parse d.content = .ok (.object m)) (completes : Completes a m m') :
      Request a (.execute d) (.object m')
  | start {d : Directive} (kind : d.kind = .openTransaction) :
      Request a (.execute d) (a.wrapped "run_sql".toList (sqlData "BEGIN".toList))
  | commit {d : Directive} (kind : d.kind = .commit) :
      Request a (.execute d) (a.wrapped "run_sql".toList (sqlData "COMMIT".toList))
  | statement {d : Directive} (kind : d.kind = .sql) (raw : d.subtype = .raw) :
      Request a (.execute d) (a.wrapped "run_sql".toList (sqlData d.content))
  | registration {d : Directive} (kind : d.kind = .sql) (registers : d.subtype ≠ .raw) :
      Request a (.execute d)
        (a.wrapped ("register_".toList ++ d.subtype.tag) (Registration.document d))
  | control (c : Control) :
      Request a (.control c) (a.wrapped "run_sql".toList (sqlData c.statement))

structure Carries (a : Api) (body : Json) : Prop where
  session : body.member? "session".toList = some (.string a.session)
  app : (body.member? "app".toList).isSome = true
  schema : (body.member? "schema".toList).isSome = true

/-- The reply is an object with the expected code, which is a whole number. -/
def HasCode (code : Nat) (reply : Except Causes Json) : Prop :=
  ∃ m : Json.Members, reply = .ok (.object m) ∧
    m.get? "code".toList = some (.number (.whole code))

inductive Judged (code : Nat) : Except Causes Json → Verdict → Prop
  | accepted {reply : Json} (expected : HasCode code (.ok reply)) :
      Judged code (.ok reply) ⟨true, reply⟩
  | rejected {reply : Json} (other : ¬ HasCode code (.ok reply)) :
      Judged code (.ok reply) ⟨false, reply⟩
  | unreached (causes : Causes) : Judged code (.error causes) ⟨false, .string causes.message⟩

structure Conforms (transport : Transport σ) (a : Api) (t : Turn σ) : Prop where
  unfit : Unfit t.call → ∃ message, t.answer = ⟨.failure message, t.state, []⟩
  posted : ¬ Unfit t.call → ∃ body, Request a t.call body ∧ Carries a body ∧
    t.answer.emissions = [.posted body] ∧ t.answer.state = (transport.post body t.state).2 ∧
    Judged a.successCode (transport.post body t.state).1 t.answer.verdict
  success : t.answer.verdict.success = true ↔ ∃ body, t.answer.emissions = [.posted body] ∧
    HasCode a.successCode (transport.post body t.state).1

/-! ## Documents -/

theorem envelope_eq (a : Api) (action : Text) (data : Json) :
    a.envelope action data = a.wrapped action data := by
  simp [envelope, wrapped, Json.obj, Json.Members.ofList, Json.Members.insert, Json.nameLt]

theorem runSql_eq (a : Api) (sql : Text) :
    a.runSql sql = a.wrapped "run_sql".toList (sqlData sql) := by
  rw [runSql, envelope_eq]
  simp [sqlData, Json.obj, Json.Members.ofList, Json.Members.insert]

theorem completes_complete (a : Api) {m : Json.Members} (ordered : Json.Ordered m) :
    a.Completes m (a.complete m) where
  ordered := by
    apply Json.Members.ordered_insert
    apply Json.Members.ordered_insertIfAbsent
    exact Json.Members.ordered_insertIfAbsent ordered _ _
  session := by
    rw [complete, Json.Members.get?_insert, if_pos rfl]
  app := by
    rw [complete, Json.Members.get?_insert, if_neg (by decide), Json.Members.get?_insertIfAbsent,
      if_neg (by decide), Json.Members.get?_insertIfAbsent, if_pos rfl]
  schema := by
    rw [complete, Json.Members.get?_insert, if_neg (by decide), Json.Members.get?_insertIfAbsent,
      if_pos rfl, Json.Members.get?_insertIfAbsent, if_neg (by decide)]
  others name hsession happ hschema := by
    rw [complete, Json.Members.get?_insert, if_neg hsession.symm,
      Json.Members.get?_insertIfAbsent, if_neg hschema.symm, Json.Members.get?_insertIfAbsent,
      if_neg happ.symm]

theorem wrapped_carries (a : Api) (action : Text) (data : Json) :
    a.Carries (a.wrapped action data) where
  session := by simp [wrapped, Json.member?, Json.Members.get?]
  app := by simp [wrapped, Json.member?, Json.Members.get?]
  schema := by simp [wrapped, Json.member?, Json.Members.get?]

theorem Request.carries {a : Api} {c : Call} {body : Json} (h : a.Request c body) :
    a.Carries body := by
  cases h with
  | payload _ _ completes =>
    exact ⟨completes.session, by rw [Json.member?, completes.app]; rfl,
      by rw [Json.member?, completes.schema]; rfl⟩
  | start | commit | statement | registration | control => exact wrapped_carries a _ _

/-! ## Calls -/

theorem payload_cases (a : Api) (content : Text) :
    (∃ m, Json.parse content = .ok (.object m) ∧
      a.payload content = .ok (.object (a.complete m))) ∨
    ((∀ m, Json.parse content ≠ .ok (.object m)) ∧
      ∃ message, a.payload content = .error message) := by
  rw [payload]
  cases hparse : Json.parse content with
  | error e => exact .inr ⟨by simp, _, rfl⟩
  | ok v =>
    cases v with
    | object m => exact .inl ⟨m, rfl, rfl⟩
    | null | bool | number | string | array => exact .inr ⟨by simp, _, rfl⟩

theorem body_cases (a : Api) (d : Directive) :
    (Unfit (.execute d) ∧ ∃ message, a.body d = .error message) ∨
    (¬ Unfit (.execute d) ∧ ∃ document, a.body d = .ok document ∧
      a.Request (.execute d) document) := by
  have hfit : d.kind ≠ .api → ¬ Unfit (.execute d) := by
    rintro hkind ⟨d', hd, hapi, -⟩
    cases hd
    exact hkind hapi
  cases hkind : d.kind with
  | api =>
    have hbody : a.body d = a.payload d.content := by simp only [body, hkind]
    rw [hbody]
    rcases a.payload_cases d.content with ⟨m, hparse, hpayload⟩ | ⟨hnone, hpayload⟩
    · refine .inr ⟨?_, _, hpayload,
        .payload hkind hparse (a.completes_complete (Json.ordered_of_parse hparse))⟩
      rintro ⟨d', hd, -, hnone⟩
      cases hd
      exact hnone m hparse
    · exact .inl ⟨⟨d, rfl, hkind, hnone⟩, hpayload⟩
  | openTransaction =>
    refine .inr ⟨hfit (by simp [hkind]), _, ?_, .start hkind⟩
    simp only [body, hkind, runSql_eq]
    rfl
  | commit =>
    refine .inr ⟨hfit (by simp [hkind]), _, ?_, .commit hkind⟩
    simp only [body, hkind, runSql_eq]
    rfl
  | sql =>
    by_cases hraw : d.subtype = .raw
    · have hregisters : ¬ d.subtype.isRegistration = true := by rw [hraw]; decide
      refine .inr ⟨hfit (by simp [hkind]), _, ?_, .statement hkind hraw⟩
      simp only [body, hkind, if_neg hregisters, runSql_eq]
    · have hregisters : d.subtype.isRegistration = true := bne_iff_ne.mpr hraw
      refine .inr ⟨hfit (by simp [hkind]), _, ?_, .registration hkind hraw⟩
      simp only [body, hkind, if_pos hregisters, envelope_eq]
      rfl

theorem codeOf_eq_some_iff (reply : Json) (n : Nat) :
    codeOf reply = some n ↔ HasCode n (.ok reply) := by
  rw [codeOf]
  constructor
  · intro h
    split at h
    · rename_i code hmember
      cases h
      cases reply with
      | object m => exact ⟨m, rfl, hmember⟩
      | null | bool | number | string | array => cases hmember
    · cases h
  · rintro ⟨m, hreply, hmember⟩
    cases hreply
    rw [Json.member?, hmember]

theorem judged_verdictOfReply (a : Api) (reply : Except Causes Json) :
    Judged a.successCode reply (a.verdictOfReply reply) := by
  cases reply with
  | error causes => exact .unreached causes
  | ok reply =>
    rw [verdictOfReply]
    split
    · rename_i hcode
      exact .accepted ((codeOf_eq_some_iff _ _).mp hcode)
    · rename_i hcode
      exact .rejected (fun h => hcode ((codeOf_eq_some_iff _ _).mpr h))

theorem Judged.success_iff {code : Nat} {reply : Except Causes Json} {v : Verdict}
    (h : Judged code reply v) : v.success = true ↔ HasCode code reply := by
  cases h with
  | accepted expected => exact iff_of_true rfl expected
  | rejected other => exact iff_of_false Bool.false_ne_true other
  | unreached causes =>
    refine iff_of_false Bool.false_ne_true ?_
    rintro ⟨m, hm, -⟩
    cases hm

theorem execute_of_body {transport : Transport σ} {a : Api} {d : Directive} {document : Json}
    (h : a.body d = .ok document) (x : σ) :
    (Backend.api transport a).execute d x =
      ⟨a.verdictOfReply (transport.post document x).1, (transport.post document x).2,
        [.posted document]⟩ := by
  simp only [Backend.api, Backend.ofExecute, h]

theorem execute_of_no_body {transport : Transport σ} {a : Api} {d : Directive} {message : Text}
    (h : a.body d = .error message) (x : σ) :
    (Backend.api transport a).execute d x = ⟨.failure message, x, []⟩ := by
  simp only [Backend.api, Backend.ofExecute, h]

section Calls

variable (transport : Transport σ) (a : Api)

theorem conforms_unfit {c : Call} (unfit : Unfit c) (message : Text) (x : σ) :
    Conforms transport a ⟨c, x, ⟨.failure message, x, []⟩⟩ where
  unfit _ := ⟨message, rfl⟩
  posted fit := absurd unfit fit
  success := by
    constructor
    · intro h
      cases h
    · rintro ⟨document, hposted, -⟩
      cases hposted

theorem conforms_posted {c : Call} {document : Json} (fit : ¬ Unfit c)
    (request : a.Request c document) (x : σ) :
    Conforms transport a ⟨c, x, ⟨a.verdictOfReply (transport.post document x).1,
      (transport.post document x).2, [.posted document]⟩⟩ where
  unfit unfit := absurd unfit fit
  posted _ := ⟨document, request, request.carries, rfl, rfl, judged_verdictOfReply a _⟩
  success := by
    rw [(judged_verdictOfReply a _).success_iff]
    constructor
    · intro h
      exact ⟨document, rfl, h⟩
    · rintro ⟨_, hposted, h⟩
      cases hposted
      exact h

/-- Whatever is called, and in whatever state, the call is by the protocol. -/
theorem conforms_call (c : Call) (x : σ) :
    Conforms transport a ⟨c, x, (Backend.api transport a).call c x⟩ := by
  cases c with
  | execute d =>
    rcases body_cases a d with ⟨unfit, message, hbody⟩ | ⟨fit, document, hbody, request⟩
    · rw [Backend.call, execute_of_no_body hbody]
      exact conforms_unfit transport a unfit message x
    · rw [Backend.call, execute_of_body hbody]
      exact conforms_posted transport a fit request x
  | control c =>
    have hbody : a.body (.literal .sql c.statement) =
        .ok (a.wrapped "run_sql".toList (sqlData c.statement)) := by
      rw [← runSql_eq]
      rfl
    have fit : ¬ Unfit (.control c) := by
      rintro ⟨d, hd, -⟩
      cases hd
    have hcall : (Backend.api transport a).call (.control c) =
        (Backend.api transport a).execute (.literal .sql c.statement) := rfl
    rw [hcall, execute_of_body hbody]
    exact conforms_posted transport a fit (.control c) x

end Calls

/-! ## Logins -/

theorem ofLoginReply_eq_ok {s : ApiSettings} {reply : Except Causes Json} {a : Api}
    (h : ofLoginReply s reply = .ok a) :
    a.app = s.app ∧ a.schema = s.schema ∧ a.successCode = s.successCode ∧
      ∃ v, reply = .ok v ∧ v.at? ["data".toList, "session".toList] = some (.string a.session) := by
  cases reply with
  | error causes => cases h
  | ok v =>
    rw [ofLoginReply] at h
    split at h
    · cases h
    · split at h
      · rename_i token htoken
        obtain ⟨w, hat, htext⟩ := Option.bind_eq_some_iff.mp htoken
        obtain rfl := Except.ok.inj h
        cases w with
        | string t =>
          cases htext
          exact ⟨rfl, rfl, rfl, v, rfl, hat⟩
        | null | bool | number | array | object => cases htext
      · cases h

/-- Every call over a session that a login opened is by the protocol, with what the login was
configured with and with the token that it was answered with. -/
theorem conforms_of_login (transport : Transport σ) (s : ApiSettings) (start : σ) {a : Api}
    (h : (login transport s start).1 = .ok a) :
    a.app = s.app ∧ a.schema = s.schema ∧ a.successCode = s.successCode ∧
      (∃ reply, (transport.post (loginBody s) start).1 = .ok reply ∧
        reply.at? ["data".toList, "session".toList] = some (.string a.session)) ∧
      ∀ calls x, ∀ t ∈ (Backend.api transport a).turns calls x, Conforms transport a t := by
  obtain ⟨happ, hschema, hcode, hreply⟩ := ofLoginReply_eq_ok h
  exact ⟨happ, hschema, hcode, hreply, Backend.forall_mem_turns (conforms_call transport a)⟩

def stalePayload : Directive :=
  .literal .api "\x7b\"session\":\"old\",\"app\":null,\"note\":1,\"note\":[2]\x7d".toList

/-- The third reply has the expected code only as a real number, and the last directive is an
array. -/
theorem conforms_of_login_stalePayload :
    let s : ApiSettings :=
      ⟨"api".toList, "ann".toList, "pw".toList, "stock".toList, "shop".toList, 30, 200⟩
    let transport := Transport.scripted
    let a : Api := ⟨"stock".toList, "shop".toList, "tok-1".toList, 200⟩
    let start : Script (Except Causes Json) :=
      ⟨[], [.ok Transport.standing, .ok Transport.standing,
        .ok (.obj [("code", .number (.real ⟨false, 7036874417766400, -45⟩))])]⟩
    let calls : List Call := [.execute stalePayload, .control .start,
      .execute (.literal .api "[1]".toList)]
    (login transport s start).1 = .ok a ∧
      (((Backend.api transport a).turns calls (login transport s start).2.1).map fun t =>
        t.answer.verdict.success) = [true, false, false] ∧
      (∃ reply, (transport.post (loginBody s) start).1 = .ok reply ∧
        reply.at? ["data".toList, "session".toList] = some (.string a.session)) ∧
      ∀ t ∈ (Backend.api transport a).turns calls (login transport s start).2.1,
        Conforms transport a t := by
  intro s transport a start calls
  have hlogin : (login transport s start).1 = .ok a := by rfl
  obtain ⟨-, -, -, hreply, h⟩ := conforms_of_login transport s start hlogin
  exact ⟨hlogin, by decide +kernel, hreply, h calls _⟩

end Api

end Runbook
