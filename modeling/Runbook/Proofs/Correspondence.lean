import Runbook.FileSystem.Virtual
import Runbook.Proofs.ApiProtocol
import Runbook.Proofs.Emissions
import Runbook.Proofs.Lockstep
import Runbook.Proofs.RegistrationStatement

/-! # Databases and APIs carry out the same operations

A run without directives for an API can go to a database or to an API. If both accept and reject its
calls alike, both runs make the same calls, and the statement that one of them runs and the document
that the other one posts say the same.
-/
namespace Runbook

variable {σ τ : Type}

def Line.kind : Line → Kind
  | .literal d => d.kind
  | .reference r => r.kind

def Call.directive : Call → Directive
  | .execute d => d
  | .control c => .literal .sql c.statement

theorem Backend.ofExecute_call (execute : Directive → σ → Answer σ) (c : Call) :
    (Backend.ofExecute execute).call c = execute c.directive := by
  cases c <;> rfl

/-- A statement and a document that say the same: the document holds the statement, or both
register, and the literal of the statement stands for the data of the document. -/
inductive Corresponds (schema : Text) : Text → Json → Prop
  | plain {sql : Text} {body : Json}
      (action : body.member? "action".toList = some (.string "run_sql".toList))
      (same : body.at? ["data".toList, "sql".toList] = some (.string sql)) :
      Corresponds schema sql body
  | registration {s : Subtype} {literal : Text} {body v : Json} (registers : s ≠ .raw)
      (action : body.member? "action".toList = some (.string ("register_".toList ++ s.tag)))
      (data : body.member? "data".toList = some v)
      (quotes : Registration.scanLiteral (literal ++ "::json)".toList) =
        some (v.render, "::json)".toList)) :
      Corresponds schema ("SELECT ".toList ++ schema ++ ".register_".toList ++ s.tag ++
        '(' :: literal ++ "::json)".toList) body

/-! ## Statements and documents -/

namespace Registration

theorem statement_eq (schema : Text) (d : Directive) :
    statement schema d = "SELECT ".toList ++ schema ++ ".register_".toList ++ d.subtype.tag ++
      '(' :: literal (document d).render ++ "::json)".toList := by
  have haction : '.' :: action d.subtype = ".register_".toList ++ d.subtype.tag := by
    unfold action
    simp
  unfold statement
  rw [haction]
  simp only [List.append_assoc]

end Registration

theorem wrapped_sqlData_corresponds (schema : Text) (a : Api) (sql : Text) :
    Corresponds schema sql (a.wrapped "run_sql".toList (Api.sqlData sql)) := by
  refine .plain ?_ ?_
  · simp [Api.wrapped, Json.member?, Json.Members.get?]
  · simp [Api.wrapped, Api.sqlData, Json.at?, Json.member?, Json.Members.get?]

theorem registration_corresponds (schema : Text) (a : Api) {d : Directive}
    (registers : d.subtype ≠ .raw) :
    Corresponds schema (Registration.statement schema d)
      (a.wrapped ("register_".toList ++ d.subtype.tag) (Registration.document d)) := by
  have hmark : "::json)".toList.head? ≠ some Registration.quoteMark := by decide
  rw [Registration.statement_eq]
  refine .registration registers ?_ ?_ (Registration.scanLiteral_literal _ hmark)
  · simp [Api.wrapped, Json.member?, Json.Members.get?]
  · simp [Api.wrapped, Json.member?, Json.Members.get?]

theorem exists_corresponds (schema : Text) (a : Api) {d : Directive} (hkind : d.kind ≠ .api) :
    ∃ sql body, Backend.statementFor? schema d = some sql ∧ a.body d = .ok body ∧
      Corresponds schema sql body := by
  rcases a.body_cases d with ⟨⟨d', hd, hapi, -⟩, -⟩ | ⟨-, body, hbody, request⟩
  · cases hd
    exact absurd hapi hkind
  · cases request with
    | payload kind => exact absurd kind hkind
    | start kind =>
      exact ⟨_, _, by simp only [Backend.statementFor?, kind]; rfl, hbody,
        wrapped_sqlData_corresponds ..⟩
    | commit kind =>
      exact ⟨_, _, by simp only [Backend.statementFor?, kind]; rfl, hbody,
        wrapped_sqlData_corresponds ..⟩
    | statement kind raw =>
      refine ⟨_, _, ?_, hbody, wrapped_sqlData_corresponds ..⟩
      simp only [Backend.statementFor?, kind, raw]
      rfl
    | registration kind registers =>
      refine ⟨_, _, ?_, hbody, registration_corresponds schema a registers⟩
      have hregisters : d.subtype.isRegistration = true := bne_iff_ne.mpr registers
      simp only [Backend.statementFor?, kind, if_pos hregisters]

theorem emissions_database (session : Session σ) {schema : Text} {c : Call} {sql : Text}
    (h : Backend.statementFor? schema c.directive = some sql) (x : σ) :
    ((Backend.database session schema).call c x).emissions = [.statement sql] := by
  rw [Backend.database, Backend.ofExecute_call]
  simp only [h]

theorem emissions_api (transport : Transport τ) {a : Api} {c : Call} {body : Json}
    (h : a.body c.directive = .ok body) (y : τ) :
    ((Backend.api transport a).call c y).emissions = [.posted body] := by
  rw [Backend.api, Backend.ofExecute_call]
  simp only [h]

namespace Engine

def statement? : Emission → Option Text
  | .statement sql => some sql
  | _ => none

def posted? : Emission → Option Json
  | .posted body => some body
  | _ => none

def statements (t : Trace) : List Text := (emissions t).filterMap statement?

def bodies (t : Trace) : List Json := (emissions t).filterMap posted?

/-! ## Runs without directives for an API -/

theorem leaf_kind {fs : FileSystem} {r : Reference} {file : Path} {d : Directive}
    (h : Resolution.leaf fs r file = .ok d) : d.kind = r.kind := by
  rw [Resolution.leaf] at h
  split at h
  · cases h
  · cases h
  · split at h
    · split at h
      · cases h
      · cases h
        rfl
    · cases h
      rfl

theorem leaves_kind {fs : FileSystem} {r : Reference} {files : List Path} {ds : List Directive}
    (h : Resolution.leaves fs r files = .ok ds) : ∀ d ∈ ds, d.kind = r.kind := by
  induction files generalizing ds with
  | nil =>
    cases h
    exact List.forall_mem_nil _
  | cons file files ih =>
    rw [Resolution.leaves] at h
    split at h
    · cases h
    · rename_i d hd
      split at h
      · cases h
      · rename_i rest hrest
        cases h
        exact List.forall_mem_cons.mpr ⟨leaf_kind hd, ih hrest⟩

/-- All directives of a line are of the kind that its tag names. -/
theorem expand_kind {fs : FileSystem} {l : RunFile.NumberedLine} {ds : List Directive}
    (h : (expand fs l).leaves = .ok ds) :
    ∃ x, Line.parse l.text = .ok x ∧ ∀ d ∈ ds, d.kind = x.kind := by
  rw [expand] at h
  cases hl : Line.parse l.text with
  | error e =>
    simp only [hl] at h
    cases h
  | ok x =>
    refine ⟨x, rfl, ?_⟩
    cases x with
    | literal d =>
      simp only [hl] at h
      cases h
      exact List.forall_mem_singleton.mpr rfl
    | reference r =>
      simp only [hl, Reference.resolve] at h
      cases hf : (Resolution.files fs r.path).result with
      | error e =>
        simp only [hf] at h
        cases h
      | ok files =>
        simp only [hf] at h
        cases hr : Resolution.leaves fs r files with
        | error e =>
          rw [hr] at h
          cases h
        | ok found =>
          rw [hr] at h
          cases h
          exact leaves_kind hr

def WithoutApi (text : Text) : Prop :=
  ∀ l ∈ RunFile.lines text, ∀ x, Line.parse l.text = .ok x → x.kind ≠ .api

theorem callFor_kind {d : Directive} (h : d.kind ≠ .api) : (callFor d).directive.kind ≠ .api := by
  cases hd : d.kind with
  | sql | api =>
    simp only [callFor, hd]
    exact h
  | openTransaction | commit =>
    simp only [callFor, hd]
    decide

theorem fromBackend_of_withoutApi (b : Backend σ) (fs : FileSystem) (columns : Nat) {text : Text}
    (h : WithoutApi text) (s : State σ) :
    FromBackend b (fun c => c.directive.kind ≠ .api) (run b fs columns text s).trace := by
  refine .run ?_ (by decide) columns s
  intro l hl ds hds d hd
  obtain ⟨x, hx, hkind⟩ := expand_kind hds
  apply callFor_kind
  rw [hkind d hd]
  exact h l hl x hx

theorem map_call_of_alike {xs ys : List Exchange} (h : List.Forall₂ Exchange.Alike xs ys) :
    xs.map Exchange.call = ys.map Exchange.call := by
  induction h with
  | nil => rfl
  | cons first _ ih => rw [List.map_cons, List.map_cons, first.call, ih]

theorem Lockstep.calls {p : Progress σ} {q : Progress τ} (h : Lockstep p q) :
    calls p.trace = calls q.trace := map_call_of_alike h.exchanges

theorem forall₂_of_calls {α β γ : Type} {R : α → β → Prop} {S : α → γ → Prop} {T : β → γ → Prop}
    (h : ∀ a b c, R a b → S a c → T b c) {l : List α} {xs : List β} {ys : List γ}
    (hx : List.Forall₂ R l xs) (hy : List.Forall₂ S l ys) : List.Forall₂ T xs ys := by
  induction hx generalizing ys with
  | nil =>
    cases hy
    exact .nil
  | cons first _ ih =>
    cases hy with
    | cons first' rest' => exact .cons (h _ _ _ first first') (ih rest')

/-- A run without directives for an API, over a database and over an API. If the two accept and
reject its calls alike, as long as there are calls on both sides, then both make the same calls in
the same states of transactions, come to the same end with the same count, and every call runs one
statement and posts one document that say the same. -/
theorem database_run_corresponds (session : Session σ) (schema : Text) (transport : Transport τ)
    (a : Api) (fs : FileSystem) (columns : Nat) {text : Text} (withoutApi : WithoutApi text)
    (t : Transaction) (n : Nat) (x : σ) (y : τ)
    (agree : Agree
      (exchanges (run (Backend.database session schema) fs columns text ⟨x, t, n⟩).trace)
      (exchanges (run (Backend.api transport a) fs columns text ⟨y, t, n⟩).trace)) :
    let p := run (Backend.database session schema) fs columns text ⟨x, t, n⟩
    let q := run (Backend.api transport a) fs columns text ⟨y, t, n⟩
    Lockstep p q ∧ calls p.trace = calls q.trace ∧
      (statements p.trace).length = (calls p.trace).length ∧
      List.Forall₂ (Corresponds schema) (statements p.trace) (bodies q.trace) := by
  intro p q
  have lockstep : Lockstep p q :=
    run_inLockstep (Backend.database session schema) (Backend.api transport a) fs columns text
      ⟨x, t, n⟩ ⟨y, t, n⟩ rfl rfl agree
  have hstatements : List.Forall₂ (fun c sql => Backend.statementFor? schema c.directive = some sql)
      (calls p.trace) (statements p.trace) := by
    refine (fromBackend_of_withoutApi _ fs columns withoutApi _).forall₂ (fun _ => rfl) ?_
    intro c hkind
    obtain ⟨sql, body, hsql, -, -⟩ := exists_corresponds schema a hkind
    refine ⟨sql, hsql, fun s => ?_⟩
    rw [emissions_database session hsql]
    rfl
  have hbodies : List.Forall₂ (fun c body => ∀ sql,
      Backend.statementFor? schema c.directive = some sql → Corresponds schema sql body)
      (calls q.trace) (bodies q.trace) := by
    refine (fromBackend_of_withoutApi _ fs columns withoutApi _).forall₂ (fun _ => rfl) ?_
    intro c hkind
    obtain ⟨sql, body, hsql, hbody, corresponds⟩ := exists_corresponds schema a hkind
    refine ⟨body, ?_, fun s => ?_⟩
    · intro sql' hsql'
      rw [hsql] at hsql'
      cases hsql'
      exact corresponds
    · rw [emissions_api transport hbody]
      rfl
  refine ⟨lockstep, lockstep.calls, hstatements.length_eq.symm, ?_⟩
  rw [← lockstep.calls] at hbodies
  exact forall₂_of_calls (fun _ _ _ hsql corresponds => corresponds _ hsql) hstatements hbodies

/-- A registration in a transaction, then a statement that is rejected, and so is its rollback. -/
theorem database_run_corresponds_failedRollback :
    let text := "SQL/TRANSACTION: \nFILE/SQL/report: o'b.sql\nSQL: a\nSQL: b\n".toList
    let fs := (Virtual.empty.put (.ofText "o'b.sql".toList)
      (.file (Text.encode "SELECT 'x'".toList))).fileSystem
    let session := Session.scripted
    let transport := Transport.scripted
    let a : Api := ⟨"stock".toList, "shop".toList, "tok-1".toList, 200⟩
    let p := run (Backend.database session "admin".toList) fs 80 text
      (.fresh ⟨[], [.ok ⟨0, 0⟩, .ok ⟨1, 0⟩, .error ["no".toList], .error ["gone".toList]]⟩)
    let q := run (Backend.api transport a) fs 80 text
      (.fresh ⟨[], [.ok Transport.standing, .ok Transport.standing, .ok .null, .error []]⟩)
    WithoutApi text ∧ Agree (exchanges p.trace) (exchanges q.trace) ∧
      (statements p.trace).map (·.take 27) = ["BEGIN".toList, "SELECT admin.register_repor".toList,
        "a".toList, "ROLLBACK".toList] ∧
      Lockstep p q ∧ List.Forall₂ (Corresponds "admin".toList) (statements p.trace) (bodies q.trace) := by
  intro text fs session transport a p q
  have withoutApi : WithoutApi text := by
    have h : ∀ l ∈ RunFile.lines text, (Line.parse l.text).toOption.map Line.kind ≠ some .api := by
      decide +kernel
    intro l hl x hx hkind
    apply h l hl
    rw [hx, ← hkind]
    rfl
  have agree : Agree (exchanges p.trace) (exchanges q.trace) := by
    have h : ((exchanges p.trace).zip (exchanges q.trace)).all fun x =>
        x.1.verdict.success == x.2.verdict.success := by decide +kernel
    intro x hx
    exact beq_iff_eq.mp (List.all_eq_true.mp h x hx)
  obtain ⟨lockstep, -, -, corresponds⟩ :=
    database_run_corresponds session "admin".toList transport a fs 80 withoutApi .none 0 _ _ agree
  exact ⟨withoutApi, agree, by decide +kernel, lockstep, corresponds⟩

end Engine

end Runbook
