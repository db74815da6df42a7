import Runbook.Proofs.Course

/-! # The transaction protocol

An observer of the calls can keep a flag: a successful BEGIN sets it, a successful COMMIT and any
ROLLBACK clear it. Over all runs of one engine the flag tells the engine's own state, and says which
controls come at what time.
-/
namespace Runbook.Engine

variable {σ : Type}

def Exchange.flag (isOpen : Bool) (x : Exchange) : Bool :=
  match x.call with
  | .control .start => isOpen || x.verdict.success
  | .control .commit => isOpen && !x.verdict.success
  | .control .rollback => false
  | .execute _ => isOpen

def flagAfter (isOpen : Bool) (xs : List Exchange) : Bool := xs.foldl Exchange.flag isOpen

/-- What follows a call that failed: one rollback if a transaction is open, else nothing. -/
def Settled (isOpen : Bool) (after : List Exchange) : Prop :=
  (isOpen = true → ∃ v, after = [⟨.control .rollback, .opened, v⟩]) ∧
    (isOpen = false → after = [])

/-- The rules for one call of a run, made while the flag is as given, with the calls of that run
before and after it. -/
structure Lawful (isOpen : Bool) (before : List Exchange) (x : Exchange) (after : List Exchange) :
    Prop where
  state : x.during = .opened ↔ isOpen = true
  start : x.call = .control .start → isOpen = false
  commit : x.call = .control .commit → isOpen = true
  failed : x.verdict.success = false → x.call ≠ .control .rollback → Settled isOpen after
  rollback : x.call = .control .rollback → isOpen = true ∧ after = [] ∧
    ∃ earlier y, before = earlier ++ [y] ∧ y.call ≠ .control .rollback ∧
      y.verdict.success = false ∧ y.during = .opened

def RunLawful (isOpen : Bool) (xs : List Exchange) : Prop :=
  ∀ before x after, xs = before ++ x :: after → Lawful (flagAfter isOpen before) before x after

def runAll (b : Backend σ) (fs : FileSystem) (columns : Nat) :
    List Text → State σ → List (Progress σ)
  | [], _ => []
  | text :: texts, s =>
    let p := run b fs columns text s
    p :: runAll b fs columns texts p.state

/-- In all runs every call keeps the rules, and every run leaves the engine in the state that the
flag tells. -/
def SessionLawful : Bool → List (Progress σ) → Prop
  | _, [] => True
  | isOpen, p :: rest =>
    let isOpen' := flagAfter isOpen (exchanges p.trace)
    RunLawful isOpen (exchanges p.trace) ∧ (p.state.transaction = .opened ↔ isOpen' = true) ∧
      SessionLawful isOpen' rest

theorem refusal?_eq_none_iff (t : Transaction) (k : Kind) :
    refusal? t k = none ↔ (k = .openTransaction → t = .none) ∧ (k = .commit → t = .opened) := by
  cases t <;> cases k <;> simp [refusal?]

/-- The flag follows the engine when a directive is accepted. -/
theorem flag_of_success {b : Backend σ} {d : Directive} {s : State σ} {isOpen : Bool}
    (state : s.transaction = .opened ↔ isOpen = true)
    (success : (exchangeFor b d s).verdict.success = true) :
    (s.accept b d).transaction = .opened ↔ (exchangeFor b d s).flag isOpen = true := by
  have h : (b.call (callFor d) s.backend).verdict.success = true := success
  cases hk : d.kind <;>
    simp_all [State.accept, Transaction.next, Exchange.flag, exchangeFor, callFor]

/-- A call for a directive that fails leaves the flag. -/
theorem flag_of_failure {b : Backend σ} {d : Directive} {s : State σ} (isOpen : Bool)
    (failure : (exchangeFor b d s).verdict.success = false) :
    (exchangeFor b d s).flag isOpen = isOpen := by
  have h : (b.call (callFor d) s.backend).verdict.success = false := failure
  cases hk : d.kind <;> simp_all [Exchange.flag, exchangeFor, callFor]

/-- Where no transaction is open, the flag is not set. -/
theorem flag_eq_false {t : Transaction} {isOpen : Bool} (state : t = .opened ↔ isOpen = true)
    (closed : t = .none) : isOpen = false := by
  cases isOpen with
  | false => rfl
  | true =>
    rw [closed] at state
    exact absurd (state.mpr rfl) (by decide)

/-- The first call of a run keeps the rules, if it is settled when it fails. -/
theorem lawful_first {b : Backend σ} {d : Directive} {s : State σ} {isOpen : Bool}
    {after : List Exchange} (state : s.transaction = .opened ↔ isOpen = true)
    (allowed : refusal? s.transaction d.kind = none)
    (failed : (exchangeFor b d s).verdict.success = false → Settled isOpen after) :
    Lawful isOpen [] (exchangeFor b d s) after where
  state := state
  start h :=
    flag_eq_false state (((refusal?_eq_none_iff _ _).mp allowed).1 ((callFor_eq_start_iff d).mp h))
  commit h :=
    state.mp (((refusal?_eq_none_iff _ _).mp allowed).2 ((callFor_eq_commit_iff d).mp h))
  failed h _ := failed h
  rollback h := absurd h (callFor_ne_rollback d)

/-- The rules only look back at the call directly before. -/
theorem Lawful.prepend {isOpen : Bool} {before after : List Exchange} {x : Exchange} (y : Exchange)
    (h : Lawful isOpen before x after) : Lawful isOpen (y :: before) x after where
  state := h.state
  start := h.start
  commit := h.commit
  failed := h.failed
  rollback hx := by
    obtain ⟨hopen, hafter, earlier, z, rfl, hz⟩ := h.rollback hx
    exact ⟨hopen, hafter, y :: earlier, z, rfl, hz⟩

theorem runLawful_nil (isOpen : Bool) : RunLawful isOpen [] := by
  intro before x after h
  cases before <;> cases h

/-- The first call keeps the rules, and so do the others after it. -/
theorem RunLawful.cons {isOpen : Bool} {x : Exchange} {xs : List Exchange}
    (first : Lawful isOpen [] x xs)
    (rest : ∀ before y after, xs = before ++ y :: after →
      Lawful (flagAfter (x.flag isOpen) before) (x :: before) y after) :
    RunLawful isOpen (x :: xs) := by
  intro before y after h
  cases before with
  | nil =>
    obtain ⟨rfl, rfl⟩ := List.cons.inj h
    exact first
  | cons z before =>
    obtain ⟨rfl, hxs⟩ := List.cons.inj h
    exact rest before y after hxs

/-- A directive that ends the run does so by the rules. -/
theorem Stops.lawful {b : Backend σ} {d : Directive} {s s' : State σ} {e : RunError}
    {ys : List Exchange} {isOpen : Bool} (h : Stops b d s e ys s')
    (state : s.transaction = .opened ↔ isOpen = true) :
    RunLawful isOpen ys ∧ (s'.transaction = .opened ↔ flagAfter isOpen ys = true) := by
  cases h with
  | refused => exact ⟨runLawful_nil isOpen, state⟩
  | rejected allowed rejection closed =>
    have hopen : isOpen = false := flag_eq_false state closed
    have settled : Settled isOpen [] :=
      ⟨fun ho => absurd (hopen.symm.trans ho) Bool.false_ne_true, fun _ => rfl⟩
    refine ⟨.cons (lawful_first state allowed fun _ => settled) ?_, ?_⟩
    · intro before y after hs
      cases before <;> cases hs
    · rw [flagAfter, List.foldl_cons, List.foldl_nil, flag_of_failure isOpen rejection]
      exact state
  | rolledBack allowed rejection opened =>
    have hopen : isOpen = true := state.mp opened
    have settled : Settled isOpen [⟨.control .rollback, .opened, (rollbackAnswer b d s).verdict⟩] :=
      ⟨fun _ => ⟨_, rfl⟩, fun ho => absurd (ho.symm.trans hopen) Bool.false_ne_true⟩
    refine ⟨.cons (lawful_first state allowed fun _ => settled) ?_, ?_⟩
    · intro before y after hs
      cases before with
      | cons z before => cases before <;> cases hs
      | nil =>
        obtain ⟨rfl, rfl⟩ := List.cons.inj hs
        rw [flag_of_failure isOpen rejection]
        exact {
          state := iff_of_true rfl hopen
          start := fun h => by cases h
          commit := fun h => by cases h
          failed := fun _ h => absurd rfl h
          rollback := fun _ => ⟨hopen, rfl, [], _, rfl, callFor_ne_rollback d, rejection, opened⟩ }
    · exact iff_of_false (fun h => by cases h) (fun h => by cases h)

/-- Directives that are accepted keep the rules, and whatever follows them by the rules. -/
theorem Accepts.lawful {b : Backend σ} {s s' : State σ} {ds : List Directive}
    {xs ys : List Exchange} {isOpen : Bool} (h : Accepts b s ds xs s')
    (state : s.transaction = .opened ↔ isOpen = true)
    (rest : ∀ isOpen', (s'.transaction = .opened ↔ isOpen' = true) → RunLawful isOpen' ys) :
    RunLawful isOpen (xs ++ ys) ∧
      (s'.transaction = .opened ↔ flagAfter isOpen xs = true) := by
  induction h generalizing isOpen with
  | nil => exact ⟨rest isOpen state, state⟩
  | cons allowed success _ ih =>
    obtain ⟨hl, hs⟩ := ih (flag_of_success state success) rest
    refine ⟨.cons (lawful_first state allowed fun failure => ?_) ?_, hs⟩
    · rw [success] at failure
      cases failure
    · intro before y after hsplit
      exact (hl before y after hsplit).prepend _

/-- A run keeps the rules and leaves the engine in the state that the flag tells. -/
theorem run_lawful (b : Backend σ) (fs : FileSystem) (columns : Nat) (text : Text) {s : State σ}
    {isOpen : Bool} (state : s.transaction = .opened ↔ isOpen = true) :
    RunLawful isOpen (exchanges (run b fs columns text s).trace) ∧
      ((run b fs columns text s).state.transaction = .opened ↔
        flagAfter isOpen (exchanges (run b fs columns text s).trace) = true) := by
  have all : ∀ {ds xs s'}, Accepts b s ds xs s' → RunLawful isOpen xs ∧
      (s'.transaction = .opened ↔ flagAfter isOpen xs = true) := by
    intro ds xs s' sent
    have h := sent.lawful state fun isOpen' _ => runLawful_nil isOpen'
    rwa [List.append_nil] at h
  rcases run_cases b fs columns text s with ⟨ds, _, sent, _⟩ | ⟨e, -, ending⟩
  · exact all sent
  · cases ending with
    | unreadable _ _ _ sent => exact all sent
    | stopped _ _ sent stops hx =>
      rw [hx]
      obtain ⟨hl, hs⟩ := sent.lawful state fun isOpen' h => (stops.lawful h).1
      refine ⟨hl, ?_⟩
      rw [flagAfter, List.foldl_append]
      exact (stops.lawful hs).2

theorem runAll_lawful (b : Backend σ) (fs : FileSystem) (columns : Nat) (texts : List Text)
    {s : State σ} {isOpen : Bool} (state : s.transaction = .opened ↔ isOpen = true) :
    SessionLawful isOpen (runAll b fs columns texts s) := by
  induction texts generalizing s isOpen with
  | nil => trivial
  | cons text texts ih =>
    obtain ⟨hl, hs⟩ := run_lawful b fs columns text state
    exact ⟨hl, hs, ih hs⟩

/-- All runs of a new engine keep the rules. -/
theorem sessionLawful_runAll_fresh (b : Backend σ) (fs : FileSystem) (columns : Nat)
    (texts : List Text) (backend : σ) :
    SessionLawful false (runAll b fs columns texts (.fresh backend)) :=
  runAll_lawful b fs columns texts (iff_of_false (fun h => by cases h) (fun h => by cases h))

end Runbook.Engine
