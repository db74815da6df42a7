import Mathlib.Algebra.GroupWithZero.Nat
import Runbook.Backend.Postgres

/-! # Rows affected and rows returned

A reply to a batch counts its data rows as returned. As affected it counts the rows of every
command whose tag ends with a number, whatever the command is: those of queries are affected and
returned, and only where the other commands count nothing are the rows affected those written.
-/
namespace Runbook.Postgres

def commandOf (tag : Text) : Text := tag.takeWhile (· != ' ')

def writesRows (tag : Text) : Bool :=
  ["INSERT", "UPDATE", "DELETE"].any fun name => commandOf tag == name.toList

def tags (reply : Reply) : List Text :=
  reply.filterMap fun
    | .complete tag => some tag
    | _ => none

def dataRows (reply : Reply) : Nat := reply.count .row

/-- The rows that some of the commands count, by their tags. -/
def countWhere (p : Text → Bool) (reply : Reply) : Nat :=
  (((tags reply).filter p).map countOf).sum

/-- The rows inserted, updated and deleted. -/
def written (reply : Reply) : Nat := countWhere writesRows reply

/-- The rows that all other commands count. -/
def unwritten (reply : Reply) : Nat := countWhere (fun tag => !writesRows tag) reply

theorem countWhere_add_countWhere_not (p : Text → Bool) (reply : Reply) :
    countWhere p reply + countWhere (fun tag => !p tag) reply =
      ((tags reply).map countOf).sum := by
  rw [countWhere, countWhere, ← List.sum_append_nat, ← List.map_append]
  exact ((List.filter_append_perm p (tags reply)).map countOf).sum_nat

theorem rowsOf_cons (m : Message) (reply : Reply) :
    rowsOf (m :: reply) = addMessage m (rowsOf reply) := rfl

/-- Every message adds what it counts: a data row one row, a completion the number in its tag. -/
theorem rowsOf_of_accepted {reply : Reply} (accepted : ∀ r, .error r ∉ reply) :
    rowsOf reply = .ok ⟨((tags reply).map countOf).sum % countLimit, dataRows reply⟩ := by
  induction reply with
  | nil => rfl
  | cons m reply ih =>
    have accepted' : ∀ r, .error r ∉ reply := fun r h => accepted r (List.mem_cons_of_mem _ h)
    rw [rowsOf_cons, ih accepted']
    cases m with
    | row => simp [addMessage, tags, dataRows, Except.map]
    | complete tag =>
      simp [addMessage, tags, dataRows, Except.map, Nat.add_comm]
    | empty | notice => simp [addMessage, tags, dataRows]
    | error r => exact absurd List.mem_cons_self (accepted r)

theorem session_run_of_sendable {sql : Text} {s s' : Script Reply} {reply : Reply}
    (sendable : '\x00' ∉ sql)
    (answered : s.answer sql rejectedReply standingReply = (reply, s')) :
    session.run sql s = (rowsOf reply, s') := by
  have hfault : sendFault? [sql] = none := by simp [sendFault?, sendable]
  simp only [session, hfault, answered]

theorem add_mod_countLimit_eq_left_iff (n m : Nat) :
    (n + m) % countLimit = n ↔ n < countLimit ∧ countLimit ∣ m := by
  have hlimit : countLimit = 18446744073709551616 := rfl
  rw [hlimit]
  omega

/-- A reply without an error is counted in full. Its rows affected are the rows written exactly when
those fit into the count and the other commands count nothing, except by going round it. -/
theorem affected_eq_written_iff {sql : Text} {s s' : Script Reply} {reply : Reply}
    (sendable : '\x00' ∉ sql)
    (answered : s.answer sql rejectedReply standingReply = (reply, s'))
    (accepted : ∀ r, .error r ∉ reply) :
    ∃ rows, session.run sql s = (.ok rows, s') ∧ rows.returned = dataRows reply ∧
      rows.affected = (written reply + unwritten reply) % countLimit ∧
      (rows.affected = written reply ↔
        written reply < countLimit ∧ countLimit ∣ unwritten reply) := by
  refine ⟨⟨(written reply + unwritten reply) % countLimit, dataRows reply⟩, ?_, rfl, rfl,
    add_mod_countLimit_eq_left_iff _ _⟩
  rw [session_run_of_sendable sendable answered, rowsOf_of_accepted accepted, written, unwritten,
    countWhere_add_countWhere_not]

/-- A batch of which all commands that count rows write them, and give some of them back. -/
theorem affected_eq_written_returning :
    let sql := "CREATE TABLE t (i int); INSERT INTO t VALUES (1), (2) RETURNING i".toList
    let reply : Reply := [.complete "CREATE TABLE".toList, .row, .row,
      .complete "INSERT 0 2".toList]
    let s : Script Reply := ⟨[], [reply]⟩
    '\x00' ∉ sql ∧ s.answer sql rejectedReply standingReply = (reply, ⟨[], []⟩) ∧
      (∀ r, .error r ∉ reply) ∧ ∃ rows, session.run sql s = (.ok rows, ⟨[], []⟩) ∧
        rows.returned = 2 ∧ rows.affected = 2 ∧ rows.affected = written reply := by
  intro sql reply s
  have sendable : '\x00' ∉ sql := by decide
  have answered : s.answer sql rejectedReply standingReply = (reply, ⟨[], []⟩) := rfl
  have accepted : ∀ r, .error r ∉ reply := by simp [reply]
  obtain ⟨rows, run, returned, affected, iff⟩ := affected_eq_written_iff sendable answered accepted
  refine ⟨sendable, answered, accepted, rows, run, returned, affected, iff.mpr ⟨?_, ?_⟩⟩
  · decide
  · decide

/-- A batch of a query and an insertion: the rows that the query returns are affected as well. -/
theorem affected_ne_written_query :
    let sql := "SELECT id FROM t; INSERT INTO u VALUES (1), (2), (3)".toList
    let reply : Reply := [.row, .row, .complete "SELECT 2".toList, .complete "INSERT 0 3".toList]
    session.run sql ⟨[], [reply]⟩ = (.ok ⟨5, 2⟩, ⟨[], []⟩) ∧ dataRows reply = 2 ∧
      written reply = 3 :=
  ⟨rfl, by decide, by decide⟩

end Runbook.Postgres
