import Runbook.Command.Run
import Runbook.Proofs.Mirroring

/-! # Secrecy

Two sessions with an API that differ only in the password of the settings and in the token of the
login report the same and post the same, up to these two. One error shows what a login was answered:
a reply without the expected code is shown as it is when it gives no message.
-/
namespace Runbook

variable {σ τ : Type} {v w : Text}

/-- Values that differ only at the end of a path, where one has one text and one the other. -/
inductive Json.Swapped (v w : Text) : List Text → Json → Json → Prop
  | here : Swapped v w [] (.string v) (.string w)
  | inside {name : Text} {path : List Text} {x y : Json} {before : Json.Members}
      (fresh : before.get? name = none) (h : Swapped v w path x y) (after : Json.Members) :
      Swapped v w (name :: path) (.object (before ++ (name, x) :: after))
        (.object (before ++ (name, y) :: after))

def Transport.replies (transport : Transport σ) : List Json → σ → List (Except Causes Json)
  | [], _ => []
  | body :: rest, x => (transport.post body x).1 :: transport.replies rest (transport.post body x).2

/-- From two states on, documents that differ only in the session get the same replies. -/
def Transport.AnswersAlike (v w : Text) (transport : Transport σ) (transport' : Transport τ)
    (x : σ) (y : τ) : Prop :=
  ∀ bodies bodies', List.Forall₂ (Json.Swapped v w ["session".toList]) bodies bodies' →
    transport.replies bodies x = transport'.replies bodies' y

/-- Replies to a login that differ only in the token, or that are the same and have none. -/
inductive Api.LoginReplies (v w : Text) : Except Causes Json → Except Causes Json → Prop
  | tokens {x y : Json} (h : Json.Swapped v w ["data".toList, "session".toList] x y) :
      LoginReplies v w (.ok x) (.ok y)
  | none {reply : Except Causes Json}
      (h : ∀ x t, reply = .ok x → x.at? ["data".toList, "session".toList] ≠ some (.string t)) :
      LoginReplies v w reply reply

/-- What a session with an API begins with: the file system that has its settings, these settings,
and a transport in its first state. -/
structure ApiSession (σ : Type) where
  config : FileSystem
  settings : ApiSettings
  transport : Transport σ
  start : σ

namespace ApiSession

def reply (u : ApiSession σ) : Except Causes Json :=
  (u.transport.post (Api.loginBody u.settings) u.start).1

def loggedIn (u : ApiSession σ) : σ := (u.transport.post (Api.loginBody u.settings) u.start).2

end ApiSession

/-- What can be seen of a session: the events, of which a debug level leaves some out, the documents
that were posted, the failure, and how many directives were accepted. -/
structure Observation where
  events : List Event
  posted : List Json
  failure : Option Causes
  executed : Nat

def ApiSession.observe (u : ApiSession σ) (path : Path) (fs : FileSystem) (columns : Nat)
    (text : Text) : Observation :=
  let (result, x, contacts) := Connection.api u.transport u.settings u.start
  let begun := (Settings.load u.config path).2 ++ Command.contactEvents contacts
  let posted := contacts.filterMap fun
    | .posted body => some body
    | _ => none
  match result with
  | .error e => ⟨begun, posted, some (Command.connectFailure ⟨path, .api u.settings⟩ e), 0⟩
  | .ok a =>
    let p := Engine.run (Backend.api u.transport a) fs columns text (.fresh x)
    ⟨begun ++ Engine.events p.trace, posted ++ Engine.bodies p.trace,
      p.failure.map fun e => e.message :: e.causes, p.state.executed⟩

/-- Two sessions with accepted settings that differ only in a password, which is not empty, and in
the token of the login. -/
structure OnlySecretsDiffer (path : Path) (v w : Text) (u : ApiSession σ) (u' : ApiSession τ) :
    Prop where
  accepted : (Settings.load u.config path).1 = .ok ⟨path, .api u.settings⟩
  accepted' : (Settings.load u'.config path).1 = .ok ⟨path, .api u'.settings⟩
  settings : u'.settings = { u.settings with password := u'.settings.password }
  password : u.settings.password ≠ []
  password' : u'.settings.password ≠ []
  login : Api.LoginReplies v w u.reply u'.reply
  later : Transport.AnswersAlike v w u.transport u'.transport u.loggedIn u'.loggedIn

/-- A reply without the expected code and without a message. -/
structure Api.Unexplained (code : Nat) (m : Json.Members) : Prop where
  rejected : ¬ HasCode code (.ok (.object m))
  silent : ∀ t, m.get? "message".toList ≠ some (.string t)

def shownReply (path : Path) (m : Json.Members) : Causes :=
  ["using ".toList ++ path.display,
    "Could not connect to the api backend: login rejected: ".toList ++ (Json.object m).render]

/-- The same is seen of two sessions, up to the secrets in what they post and in the reply to a
login that is rejected without a message. -/
structure Discreet (path : Path) (v w : Text) (u : ApiSession σ) (u' : ApiSession τ)
    (o o' : Observation) : Prop where
  events : o.events = o'.events
  executed : o.executed = o'.executed
  credentials : Json.Swapped u.settings.password u'.settings.password
    ["data".toList, "password".toList] (Api.loginBody u.settings) (Api.loginBody u'.settings)
  posted : ∃ later later', o.posted = Api.loginBody u.settings :: later ∧
    o'.posted = Api.loginBody u'.settings :: later' ∧
    List.Forall₂ (Json.Swapped v w ["session".toList]) later later'
  failure : (∀ m, u.reply = .ok (.object m) → ¬ Api.Unexplained u.settings.successCode m) →
    o.failure = o'.failure
  shown : ∀ m m', u.reply = .ok (.object m) → u'.reply = .ok (.object m') →
    Api.Unexplained u.settings.successCode m →
    o.failure = some (shownReply path m) ∧ o'.failure = some (shownReply path m')

/-! ## Values that differ in one text -/

namespace Json

namespace Swapped

variable {name : Text} {path : List Text} {x y : Json}

theorem at?_eq (h : Swapped v w path x y) :
    x.at? path = some (.string v) ∧ y.at? path = some (.string w) := by
  induction h with
  | here => exact ⟨rfl, rfl⟩
  | inside fresh _ _ ih =>
    simp only [at?, member?, Members.get?_append, fresh, Members.get?, Option.none_or, if_true]
    exact ih

theorem member?_eq_of_ne (h : Swapped v w (name :: path) x y) {other : Text}
    (hne : name ≠ other) : x.member? other = y.member? other := by
  cases h with
  | inside => simp only [member?, Members.get?_append, Members.get?, if_neg hne]

theorem exists_object (h : Swapped v w (name :: path) x y) :
    ∃ m m' : Members, x = .object m ∧ y = .object m' := by
  cases h with
  | inside => exact ⟨_, _, rfl, rfl⟩

theorem insert (v w name : Text) (m : Members) :
    Swapped v w [name] (.object (m.insert name (.string v)))
      (.object (m.insert name (.string w))) := by
  obtain ⟨before, after, fresh, h⟩ := Members.exists_insert_eq name m
  rw [h, h]
  exact .inside fresh .here after

end Swapped

end Json

/-! ## Documents and replies -/

namespace Transport

variable {transport : Transport σ} {transport' : Transport τ} {x : σ} {y : τ} {body body' : Json}

theorem AnswersAlike.reply_eq (h : AnswersAlike v w transport transport' x y)
    (hb : Json.Swapped v w ["session".toList] body body') :
    (transport.post body x).1 = (transport'.post body' y).1 :=
  (List.cons.inj (h [body] [body'] (.cons hb .nil))).1

theorem AnswersAlike.next (h : AnswersAlike v w transport transport' x y)
    (hb : Json.Swapped v w ["session".toList] body body') :
    AnswersAlike v w transport transport' (transport.post body x).2
      (transport'.post body' y).2 := by
  intro bodies bodies' hrest
  exact (List.cons.inj (h (body :: bodies) (body' :: bodies') (.cons hb hrest))).2

end Transport

namespace Api

theorem loginBody_swapped (s : ApiSettings) (password : Text) :
    Json.Swapped s.password password ["data".toList, "password".toList] (loginBody s)
      (loginBody { s with password := password }) := by
  have document (s : ApiSettings) : loginBody s = .object
      ([("action".toList, .string "login".toList), ("app".toList, .string s.app)] ++
        ("data".toList, .object ([] ++ ("password".toList, .string s.password) ::
          [("username".toList, .string s.username)])) :: []) := by
    simp [loginBody, Json.obj, Json.Members.ofList, Json.Members.insert, Json.nameLt]
  rw [document, document]
  exact .inside rfl (.inside rfl .here _) _

theorem wrapped_swapped (a : Api) (token action : Text) (data : Json) :
    Json.Swapped a.session token ["session".toList] (a.wrapped action data)
      ({ a with session := token }.wrapped action data) := by
  have document (a : Api) : a.wrapped action data = .object ([("action".toList, .string action),
      ("app".toList, .string a.app), ("data".toList, data), ("schema".toList, .string a.schema)] ++
        ("session".toList, .string a.session) :: []) := rfl
  rw [document, document]
  exact .inside rfl .here _

theorem payload_swapped (a : Api) (token content : Text) :
    (∃ message, a.payload content = .error message ∧
      { a with session := token }.payload content = .error message) ∨
    ∃ x y, a.payload content = .ok x ∧ { a with session := token }.payload content = .ok y ∧
      Json.Swapped a.session token ["session".toList] x y := by
  simp only [payload]
  cases Json.parse content with
  | error e => exact .inl ⟨_, rfl, rfl⟩
  | ok x =>
    cases x with
    | object m => exact .inr ⟨_, _, rfl, rfl, .insert _ _ _ _⟩
    | null | bool | number | string | array => exact .inl ⟨_, rfl, rfl⟩

/-- Sessions that differ only in their tokens have the same documents up to these, and refuse the
same directives. -/
theorem body_swapped (a : Api) (token : Text) (d : Directive) :
    (∃ message, a.body d = .error message ∧
      { a with session := token }.body d = .error message) ∨
    ∃ x y, a.body d = .ok x ∧ { a with session := token }.body d = .ok y ∧
      Json.Swapped a.session token ["session".toList] x y := by
  simp only [body, runSql_eq, envelope_eq]
  cases d.kind with
  | api => exact a.payload_swapped token d.content
  | openTransaction | commit => exact .inr ⟨_, _, rfl, rfl, a.wrapped_swapped token _ _⟩
  | sql =>
    simp only
    split <;> exact .inr ⟨_, _, rfl, rfl, a.wrapped_swapped token _ _⟩

theorem api_mirrored (transport : Transport σ) (transport' : Transport τ) (a : Api) (token : Text) :
    (Backend.api transport a).Mirrored
      (Transport.AnswersAlike a.session token transport transport')
      (Json.Swapped a.session token ["session".toList])
      (Backend.api transport' { a with session := token }) := by
  intro call x y h
  rw [Backend.api, Backend.api, Backend.ofExecute_call, Backend.ofExecute_call]
  rcases a.body_swapped token call.directive with ⟨m, hm, hm'⟩ | ⟨b, b', hb, hb', swapped⟩
  · simp only [hm, hm']
    exact ⟨rfl, h, .nil⟩
  · simp only [hb, hb']
    exact ⟨congrArg a.verdictOfReply (h.reply_eq swapped), h.next swapped,
      .cons (.posted swapped) .nil⟩

/-! ## Logins -/

theorem ofLoginReply_of_unexplained {s : ApiSettings} {m : Json.Members}
    (h : Unexplained s.successCode m) : ofLoginReply s (.ok (.object m)) =
      .error ["login rejected: ".toList ++ (Json.object m).render] := by
  have rejected : codeOf (.object m) ≠ some s.successCode :=
    fun hcode => h.rejected ((codeOf_eq_some_iff _ _).mp hcode)
  have message : (Verdict.rejected (.object m)).message = (Json.object m).render := by
    simp only [Verdict.rejected, Verdict.message, Json.member?]
    split
    · rename_i t ht
      exact absurd ht (h.silent t)
    · rfl
  rw [ofLoginReply, if_pos rejected, message]

theorem codeOf_eq_of_swapped {path : List Text} {x y : Json}
    (h : Json.Swapped v w ("data".toList :: path) x y) : codeOf x = codeOf y := by
  rw [codeOf, codeOf, h.member?_eq_of_ne (by decide)]

theorem Unexplained.of_swapped {code : Nat} {m m' : Json.Members} {path : List Text}
    (h : Json.Swapped v w ("data".toList :: path) (.object m) (.object m'))
    (hm : Unexplained code m) : Unexplained code m' where
  rejected := by
    rw [← codeOf_eq_some_iff, ← codeOf_eq_of_swapped h, codeOf_eq_some_iff]
    exact hm.rejected
  silent t ht := by
    have hne : "data".toList ≠ "message".toList := by decide
    exact hm.silent t ((h.member?_eq_of_ne hne).trans ht)

theorem message_of_member {m : Json.Members} {t : Text}
    (h : m.get? "message".toList = some (.string t)) :
    (Verdict.rejected (.object m)).message = t := by
  simp only [Verdict.rejected, Verdict.message, Json.member?, h]

/-- Logins that are answered alike both fail, for the same reason if there is a message, or they
both open a session. -/
theorem login_cases {reply reply' : Except Causes Json} (s : ApiSettings)
    (h : LoginReplies v w reply reply') :
    (∃ causes causes', ofLoginReply s reply = .error causes ∧
      ofLoginReply s reply' = .error causes' ∧
      ((∀ m, reply = .ok (.object m) → ¬ Unexplained s.successCode m) → causes = causes')) ∨
    ∃ a, ofLoginReply s reply = .ok a ∧ a.session = v ∧
      ofLoginReply s reply' = .ok { a with session := w } := by
  cases h with
  | none h =>
    cases hr : ofLoginReply s reply with
    | error causes => exact .inl ⟨causes, causes, rfl, rfl, fun _ => rfl⟩
    | ok a =>
      obtain ⟨-, -, -, x, hx, token⟩ := ofLoginReply_eq_ok hr
      exact absurd token (h x _ hx)
  | tokens h =>
    obtain ⟨m, m', rfl, rfl⟩ := h.exists_object
    have same : codeOf (.object m) = codeOf (.object m') := codeOf_eq_of_swapped h
    by_cases rejected : codeOf (.object m) ≠ some s.successCode
    · have rejected' : codeOf (.object m') ≠ some s.successCode := same ▸ rejected
      refine .inl ⟨_, _, by rw [ofLoginReply, if_pos rejected],
        by rw [ofLoginReply, if_pos rejected'], fun explained => ?_⟩
      obtain ⟨t, ht⟩ : ∃ t, m.get? "message".toList = some (.string t) := by
        by_contra silent
        refine explained m rfl ⟨fun hcode => ?_, fun t ht => silent ⟨t, ht⟩⟩
        exact rejected ((codeOf_eq_some_iff _ _).mpr hcode)
      have hne : "data".toList ≠ "message".toList := by decide
      have ht' : m'.get? "message".toList = some (.string t) :=
        (h.member?_eq_of_ne hne).symm.trans ht
      rw [message_of_member ht, message_of_member ht']
    · have accepted' : ¬ codeOf (.object m') ≠ some s.successCode := same ▸ rejected
      obtain ⟨token, token'⟩ := h.at?_eq
      refine .inr ⟨⟨s.app, s.schema, v, s.successCode⟩, ?_, rfl, ?_⟩
      · rw [ofLoginReply, if_neg rejected, token]
        rfl
      · rw [ofLoginReply, if_neg accepted', token']
        rfl

/-- Where the reply to a login has to be shown, so has the other one. -/
theorem LoginReplies.unexplained {code : Nat} {m m' : Json.Members}
    (h : LoginReplies v w (.ok (.object m)) (.ok (.object m'))) (hm : Unexplained code m) :
    Unexplained code m' := by
  cases h with
  | tokens h => exact hm.of_swapped h
  | none => exact hm

end Api

/-! ## Sessions -/

theorem Settings.load_of_eq_ok {config : FileSystem} {path : Path} {s : Settings}
    (h : (load config path).1 = .ok s) :
    (load config path).2 = report s :: warningReports (warnings s.target) := by
  rw [load] at h ⊢
  cases hs : ofFile config path with
  | error e =>
    rw [hs] at h
    cases h
  | ok s' =>
    rw [hs] at h
    cases h
    rfl

/-- A password that is not empty changes nothing in what is reported about the settings. -/
theorem Settings.warnings_password {s : ApiSettings} {password : Text} (h : s.password ≠ [])
    (h' : password ≠ []) :
    warnings (.api { s with password := password }) = warnings (.api s) := by
  have given : s.password.isEmpty = false := List.isEmpty_eq_false_iff.mpr h
  have given' : password.isEmpty = false := List.isEmpty_eq_false_iff.mpr h'
  simp only [warnings, given, given']

namespace ApiSession

variable {u : ApiSession σ} {path : Path} {a : Api} {causes : Causes}

theorem observe_of_error (h : Api.ofLoginReply u.settings u.reply = .error causes)
    (fs : FileSystem) (columns : Nat) (text : Text) :
    u.observe path fs columns text =
      ⟨(Settings.load u.config path).2 ++ [Connection.attempt (.api u.settings)],
        [Api.loginBody u.settings],
        some ["using ".toList ++ path.display,
          (Connection.failure (.api u.settings) causes).message], 0⟩ := by
  have login : (Api.login u.transport u.settings u.start).1 = .error causes := h
  simp only [observe, Connection.api, login]
  rfl

theorem observe_of_ok (h : Api.ofLoginReply u.settings u.reply = .ok a) (fs : FileSystem)
    (columns : Nat) (text : Text) :
    let p := Engine.run (Backend.api u.transport a) fs columns text (.fresh u.loggedIn)
    u.observe path fs columns text =
      ⟨(Settings.load u.config path).2 ++ [Connection.attempt (.api u.settings)] ++
        Engine.events p.trace, Api.loginBody u.settings :: Engine.bodies p.trace,
        p.failure.map fun e => e.message :: e.causes, p.state.executed⟩ := by
  have login : (Api.login u.transport u.settings u.start).1 = .ok a := h
  simp only [observe, Connection.api, login]
  rfl

theorem observe_of_unexplained {m : Json.Members} (hr : u.reply = .ok (.object m))
    (h : Api.Unexplained u.settings.successCode m) (fs : FileSystem) (columns : Nat)
    (text : Text) :
    (u.observe path fs columns text).failure = some (shownReply path m) := by
  have login := Api.ofLoginReply_of_unexplained h
  rw [← hr] at login
  rw [observe_of_error login]
  rfl

end ApiSession

namespace OnlySecretsDiffer

variable {u : ApiSession σ} {u' : ApiSession τ} {path : Path}

theorem reports_eq (h : OnlySecretsDiffer path v w u u') :
    (Settings.load u.config path).2 ++ [Connection.attempt (.api u.settings)] =
      (Settings.load u'.config path).2 ++ [Connection.attempt (.api u'.settings)] := by
  rw [Settings.load_of_eq_ok h.accepted, Settings.load_of_eq_ok h.accepted', h.settings,
    Settings.warnings_password h.password h.password']
  rfl

theorem ofLoginReply_eq (h : OnlySecretsDiffer path v w u u') (reply : Except Causes Json) :
    Api.ofLoginReply u'.settings reply = Api.ofLoginReply u.settings reply := by
  rw [h.settings]
  rfl

theorem credentials (h : OnlySecretsDiffer path v w u u') :
    Json.Swapped u.settings.password u'.settings.password ["data".toList, "password".toList]
      (Api.loginBody u.settings) (Api.loginBody u'.settings) := by
  have swapped := Api.loginBody_swapped u.settings u'.settings.password
  rwa [← h.settings] at swapped

theorem shown (h : OnlySecretsDiffer path v w u u') {m m' : Json.Members}
    (hr : u.reply = .ok (.object m)) (hr' : u'.reply = .ok (.object m'))
    (hm : Api.Unexplained u.settings.successCode m) (fs : FileSystem) (columns : Nat)
    (text : Text) :
    (u.observe path fs columns text).failure = some (shownReply path m) ∧
      (u'.observe path fs columns text).failure = some (shownReply path m') := by
  have login := h.login
  rw [hr, hr'] at login
  have code : u'.settings.successCode = u.settings.successCode := by rw [h.settings]
  have hm' : Api.Unexplained u'.settings.successCode m' := code ▸ login.unexplained hm
  exact ⟨ApiSession.observe_of_unexplained hr hm fs columns text,
    ApiSession.observe_of_unexplained hr' hm' fs columns text⟩

/-- Sessions that are opened run alike. -/
theorem run_mirrored (h : OnlySecretsDiffer path v w u u') {a : Api} (token : a.session = v)
    (fs : FileSystem) (columns : Nat) (text : Text) :
    Engine.Progress.Mirrored (Transport.AnswersAlike v w u.transport u'.transport)
      (Json.Swapped v w ["session".toList])
      (Engine.run (Backend.api u.transport a) fs columns text (.fresh u.loggedIn))
      (Engine.run (Backend.api u'.transport { a with session := w }) fs columns text
        (.fresh u'.loggedIn)) := by
  subst token
  exact Engine.run_mirrored (Api.api_mirrored u.transport u'.transport a w) fs columns text
    ⟨h.later, rfl, rfl⟩

end OnlySecretsDiffer

/-- Sessions that differ only in their secrets are seen to do the same, whatever they run. -/
theorem discreet_observe {u : ApiSession σ} {u' : ApiSession τ} {path : Path}
    (h : OnlySecretsDiffer path v w u u') (fs : FileSystem) (columns : Nat) (text : Text) :
    Discreet path v w u u' (u.observe path fs columns text) (u'.observe path fs columns text) := by
  have shown := fun m m' (hr : u.reply = .ok (.object m)) (hr' : u'.reply = .ok (.object m')) hm =>
    h.shown hr hr' hm fs columns text
  rcases Api.login_cases u.settings h.login with
    ⟨causes, causes', hu, hu', explained⟩ | ⟨a, hu, token, hu'⟩
  · rw [← h.ofLoginReply_eq] at hu'
    rw [ApiSession.observe_of_error hu, ApiSession.observe_of_error hu'] at shown ⊢
    refine ⟨h.reports_eq, rfl, h.credentials, ⟨[], [], rfl, rfl, .nil⟩, fun hm => ?_, shown⟩
    rw [explained hm]
    rfl
  · rw [← h.ofLoginReply_eq] at hu'
    rw [ApiSession.observe_of_ok hu, ApiSession.observe_of_ok hu'] at shown ⊢
    obtain ⟨failure, state, trace⟩ := h.run_mirrored token fs columns text
    refine ⟨?_, state.executed, h.credentials, ⟨_, _, rfl, rfl, Engine.bodies_mirrored trace⟩,
      fun _ => ?_, shown⟩
    · exact congrArg₂ (· ++ ·) h.reports_eq (Engine.events_eq_of_mirrored trace)
    · exact congrArg (Option.map fun e : RunError => e.message :: e.causes) failure

def ApiSession.scripted (password : Text) (reply : Json) :
    ApiSession (Script (Except Causes Json)) where
  config := { Virtual.empty.fileSystem with
    read := fun _ =>
      .ok ("[api]\nurl = \"u\"\npassword = \"".toList ++ password ++ "\"\n".toList) }
  settings := ⟨"u".toList, [], password, [], [], 30, 200⟩
  transport := .scripted
  start := ⟨[], [.ok reply]⟩

def tokenReply (code : Nat) (token : Text) : Json :=
  .object [("code".toList, .nat code), ("data".toList, .object [("session".toList, .string token)])]

theorem tokenReply_swapped (code : Nat) (v w : Text) :
    Json.Swapped v w ["data".toList, "session".toList] (tokenReply code v) (tokenReply code w) := by
  have document (t : Text) : tokenReply code t = .object ([("code".toList, .nat code)] ++
      ("data".toList, .object ([] ++ ("session".toList, .string t) :: [])) :: []) := rfl
  rw [document, document]
  exact .inside rfl (.inside rfl .here _) _

/-- A script without needles does not look at what is posted. -/
theorem Transport.answersAlike_scripted (v w : Text) (replies : List (Except Causes Json)) :
    AnswersAlike v w Transport.scripted Transport.scripted ⟨[], replies⟩ ⟨[], replies⟩ := by
  intro bodies bodies' h
  induction h generalizing replies with
  | nil => rfl
  | cons _ _ ih =>
    cases replies with
    | nil => exact congrArg (_ :: ·) (ih [])
    | cons reply rest => exact congrArg (_ :: ·) (ih rest)

/-- Two passwords and two tokens, and a document that names a session of its own. -/
theorem discreet_observe_twoTokens :
    let path := Path.ofText "c".toList
    let u := ApiSession.scripted "p".toList (tokenReply 200 "tok-A".toList)
    let u' := ApiSession.scripted "q".toList (tokenReply 200 "tok-B".toList)
    let text := "SQL: SELECT 1\nAPI: \x7b\"session\":\"old\"\x7d\n".toList
    let fs := Virtual.empty.fileSystem
    OnlySecretsDiffer path "tok-A".toList "tok-B".toList u u' ∧
      (u.observe path fs 80 text).executed = 2 ∧
      Discreet path "tok-A".toList "tok-B".toList u u' (u.observe path fs 80 text)
        (u'.observe path fs 80 text) := by
  intro path u u' text fs
  have h : OnlySecretsDiffer path "tok-A".toList "tok-B".toList u u' :=
    ⟨by decide +kernel, by decide +kernel, rfl, by decide, by decide,
      .tokens (tokenReply_swapped 200 _ _), Transport.answersAlike_scripted _ _ []⟩
  exact ⟨h, by decide +kernel, discreet_observe h fs 80 text⟩

/-- A login that is rejected without a message: the errors show the replies with their tokens. -/
theorem failure_ne_rejectedLogin :
    let path := Path.ofText "c".toList
    let u := ApiSession.scripted "p".toList (tokenReply 500 "tok-A".toList)
    let u' := ApiSession.scripted "q".toList (tokenReply 500 "tok-B".toList)
    let fs := Virtual.empty.fileSystem
    OnlySecretsDiffer path "tok-A".toList "tok-B".toList u u' ∧
      (u.observe path fs 80 []).failure ≠ (u'.observe path fs 80 []).failure := by
  intro path u u' fs
  refine ⟨⟨by decide +kernel, by decide +kernel, rfl, by decide, by decide,
    .tokens (tokenReply_swapped 500 _ _), Transport.answersAlike_scripted _ _ []⟩, ?_⟩
  decide +kernel

end Runbook
