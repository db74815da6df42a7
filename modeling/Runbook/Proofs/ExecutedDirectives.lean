import Runbook.Backend.Scripted
import Runbook.Proofs.AuditTrail
import Runbook.Proofs.GlobSelection
import Runbook.Proofs.JsonMembers
import Runbook.Proofs.Rendering

/-! # What a backend is asked to execute

Whatever a run file and the files say, a backend executes only SQL and API directives. Those that
register come from files, and options come with those that register. So a reference changes no
transaction, except that a call for one of its files fails in it.
-/
namespace Runbook

open Text (Trimmed)

/-- A directive that a backend can make sense of. -/
structure Directive.Executable (d : Directive) : Prop where
  kind : d.kind = .sql ∨ d.kind = .api
  registered : d.subtype.isRegistration = true → d.kind = .sql ∧ d.source ≠ none
  options : ∀ options, d.options = some options → d.subtype.isRegistration = true ∧
    options ≠ [] ∧ ∀ option ∈ options, option.1 ≠ [] ∧ Trimmed option.1
  inline : d.source = none → '\n' ∉ d.content

/-! ## Options -/

namespace Options

open Json (Members)

variable {line marker rest : Text} {options options' : Members} {option : Text × Json}

theorem name_of_parseMarker (h : parseMarker line marker = .ok option) :
    option.1 ≠ [] ∧ Trimmed option.1 := by
  rw [parseMarker] at h
  split at h
  · cases h
  · simp only at h
    split at h
    · cases h
    · rename_i named
      split at h
      · cases h
        exact ⟨named, Text.trimmed_trim _⟩
      · cases h

/-- What the names of the options so far are, those of all are when more markers are read. -/
theorem names_of_extractFrom {fuel : Nat} {content : Text}
    (names : ∀ option ∈ options, option.1 ≠ [] ∧ Trimmed option.1)
    (h : extractFrom fuel options content = .ok (options', rest)) :
    ∀ option ∈ options', option.1 ≠ [] ∧ Trimmed option.1 := by
  induction fuel generalizing options content with
  | zero =>
    cases h
    exact names
  | succ fuel ih =>
    simp only [extractFrom] at h
    split at h
    · cases h
      exact names
    · split at h
      · cases h
      · rename_i name value hmarker
        have names' : ∀ option ∈ options.insert name value, option.1 ≠ [] ∧ Trimmed option.1 := by
          intro option hoption
          rcases Members.mem_insert hoption with rfl | hoption
          · exact name_of_parseMarker hmarker
          · exact names option hoption
        split at h
        · cases h
          exact names'
        · exact ih names' h

theorem names_of_extract {content : Text} (h : extract content = .ok (some options, rest)) :
    options ≠ [] ∧ ∀ option ∈ options, option.1 ≠ [] ∧ Trimmed option.1 := by
  cases hfrom : extractFrom (content.length + 1) [] content with
  | error e =>
    rw [extract, hfrom] at h
    cases h
  | ok found =>
    obtain ⟨found, left⟩ := found
    cases found with
    | nil =>
      rw [extract, hfrom] at h
      cases h
    | cons first more =>
      rw [extract, hfrom] at h
      cases h
      exact ⟨List.cons_ne_nil _ _, names_of_extractFrom (List.forall_mem_nil _) hfrom⟩

end Options

/-! ## Literal lines and references -/

/-- A directive on a line of its own, if it is not a marker of a transaction. -/
theorem executable_of_literal {line : Text} {d : Directive} (noFeed : '\n' ∉ line)
    (parsed : Line.parse line = .ok (.literal d)) (kind : d.kind = .sql ∨ d.kind = .api) :
    d.Executable := by
  obtain ⟨k, before, content, rfl, rfl⟩ := Line.literal_of_parse parsed
  exact {
    kind := kind
    registered := fun h => absurd h Bool.false_ne_true
    options := fun _ h => absurd h (Option.some_ne_none _).symm
    inline := fun _ h => noFeed (List.mem_append_right _ h) }

namespace Resolution

variable {fs : FileSystem} {r : Reference} {ds : List Directive} {d : Directive}

theorem executable_of_leaf {file : Path} (allowed : Line.Allowed r.kind r.subtype)
    (h : leaf fs r file = .ok d) : d.Executable := by
  obtain ⟨k, subtype, path⟩ := r
  have kind : k = .sql ∨ k = .api := by
    cases allowed with
    | sql => exact .inl rfl
    | api => exact .inr rfl
  have registers : subtype.isRegistration = true → k = .sql := by
    intro registration
    cases allowed with
    | sql => rfl
    | api => cases registration
  rw [leaf] at h
  split at h
  · cases h
  · cases h
  · split at h
    · rename_i registration
      split at h
      · cases h
      · rename_i options content extracted
        cases h
        exact {
          kind := kind
          registered := fun h => ⟨registers h, Option.some_ne_none _⟩
          options := fun found (h : options = some found) =>
            ⟨registration, Options.names_of_extract (h ▸ extracted)⟩
          inline := fun h => absurd h (Option.some_ne_none _) }
    · cases h
      exact {
        kind := kind
        registered := fun h => ⟨registers h, Option.some_ne_none _⟩
        options := fun _ h => absurd h (Option.some_ne_none _).symm
        inline := fun h => absurd h (Option.some_ne_none _) }

theorem exists_leaf_of_mem {paths : List Path} (h : leaves fs r paths = .ok ds) (hd : d ∈ ds) :
    ∃ file, leaf fs r file = .ok d := by
  induction paths generalizing ds with
  | nil =>
    cases h
    cases hd
  | cons file paths ih =>
    obtain ⟨x, xs, hx, hxs, rfl⟩ := leaves_cons_eq_ok.mp h
    rcases List.mem_cons.mp hd with rfl | hd
    · exact ⟨file, hx⟩
    · exact ih hxs hd

/-- The directives of a reference, which have the files that they come from. -/
theorem executable_of_resolve (allowed : Line.Allowed r.kind r.subtype)
    (h : (r.resolve fs).result = .ok ds) (hd : d ∈ ds) : d.Executable ∧ d.source ≠ none := by
  rw [resolve_result] at h
  cases hfiles : (files fs r.path).result with
  | error e =>
    rw [hfiles] at h
    cases h
  | ok paths =>
    rw [hfiles] at h
    obtain ⟨file, hleaf⟩ := exists_leaf_of_mem h hd
    refine ⟨executable_of_leaf allowed hleaf, ?_⟩
    rw [source_of_leaf hleaf]
    exact Option.some_ne_none _

end Resolution

namespace Engine

variable {σ : Type}

def Spelled (text : Text) (d : Directive) : Prop :=
  ∃ line ∈ Text.lines text, RunFile.isComment line = false ∧ Line.parse line = .ok (.literal d)

/-- A directive from a file that a line of the text refers to. -/
def Fetched (fs : FileSystem) (text : Text) (d : Directive) : Prop :=
  ∃ line ∈ Text.lines text, ∃ r ds, RunFile.isComment line = false ∧
    Line.parse line = .ok (.reference r) ∧ (r.resolve fs).result = .ok ds ∧ d ∈ ds

theorem Spelled.source_eq_none {text : Text} {d : Directive} (h : Spelled text d) :
    d.source = none := by
  obtain ⟨line, -, -, parsed⟩ := h
  obtain ⟨_, _, _, rfl, -⟩ := Line.literal_of_parse parsed
  rfl

theorem Fetched.source_ne_none {fs : FileSystem} {text : Text} {d : Directive}
    (h : Fetched fs text d) : d.source ≠ none := by
  obtain ⟨line, -, r, ds, -, parsed, resolved, hd⟩ := h
  exact (Resolution.executable_of_resolve (Line.allowed_of_parse parsed) resolved hd).2

theorem Occurs.spelled_or_fetched {fs : FileSystem} {text : Text} {d : Directive}
    (h : Occurs fs text d) : Spelled text d ∨ Fetched fs text d := by
  obtain ⟨line, hline, ds, stands, hd⟩ := h
  cases stands with
  | comment => cases hd
  | literal noComment parsed =>
    obtain rfl := List.mem_singleton.mp hd
    exact .inl ⟨line, hline, noComment, parsed⟩
  | reference noComment parsed resolved =>
    exact .inr ⟨line, hline, _, ds, noComment, parsed, resolved, hd⟩

theorem Occurs.executable {fs : FileSystem} {text : Text} {d : Directive} (h : Occurs fs text d)
    (kind : d.kind = .sql ∨ d.kind = .api) : d.Executable := by
  rcases h.spelled_or_fetched with spelled | fetched
  · obtain ⟨line, hline, -, parsed⟩ := spelled
    exact executable_of_literal (Text.feed_not_mem_of_mem_lines hline) parsed kind
  · obtain ⟨line, -, r, ds, -, parsed, resolved, hd⟩ := fetched
    exact (Resolution.executable_of_resolve (Line.allowed_of_parse parsed) resolved hd).1

theorem callFor_eq_execute_iff {d d' : Directive} :
    callFor d' = .execute d ↔ d' = d ∧ (d.kind = .sql ∨ d.kind = .api) := by
  constructor
  · intro h
    cases hk : d'.kind <;> rw [callFor, hk] at h <;> cases h
    · exact ⟨rfl, .inl hk⟩
    · exact ⟨rfl, .inr hk⟩
  · rintro ⟨rfl, h | h⟩ <;> rw [callFor, h]

theorem exists_entry_of_mem_exchanges {t : Trace} {x : Exchange} (h : x ∈ exchanges t) :
    ∃ es, .call x.call x.during x.verdict es ∈ t := by
  obtain ⟨y, hy, hx⟩ := List.mem_filterMap.mp h
  cases y with
  | log => cases hx
  | call c during v es =>
    obtain rfl := Option.some.inj hx
    exact ⟨es, hy⟩

/-! ## References and transactions -/

theorem transaction_after_of_executable {ds : List Directive} (h : ∀ d ∈ ds, d.Executable)
    (t : Transaction) : t.after ds = t := by
  induction ds generalizing t with
  | nil => rfl
  | cons d ds ih =>
    obtain ⟨first, rest⟩ := List.forall_mem_cons.mp h
    have hnext : t.next d.kind = t := by
      rcases first.kind with hk | hk <;> rw [hk] <;> rfl
    change (t.next d.kind).after ds = t
    rw [hnext, ih rest]

/-- Where executable directives are sent, only a call that fails changes the transaction. -/
theorem Sending.exists_failed {b : Backend σ} {ds : List Directive} {s : State σ} {p : Progress σ}
    (h : Sending b ds s p) (executable : ∀ d ∈ ds, d.Executable)
    (changed : p.state.transaction ≠ s.transaction) :
    ∃ d ∈ ds, ∃ x ∈ exchanges p.trace, x.call = .execute d ∧ x.verdict.success = false := by
  cases h with
  | through sent _ =>
    refine absurd ?_ changed
    rw [sent.transaction, transaction_after_of_executable executable]
  | @stopped before after d e xs ys s' split sent stops hx _ =>
    rw [split] at executable
    have hbefore : s'.transaction = s.transaction := by
      rw [sent.transaction, transaction_after_of_executable fun d hd =>
        executable d (List.mem_append_left _ hd)]
    have hd : d ∈ before ++ d :: after := by simp
    rw [← hbefore] at changed
    generalize p.state = s'' at stops changed
    cases stops with
    | refused => exact absurd rfl changed
    | rejected => exact absurd rfl changed
    | rolledBack allowed rejection opened =>
      refine ⟨d, split ▸ hd, exchangeFor b d s', ?_, ?_, rejection⟩
      · rw [hx]
        simp
      · exact callFor_eq_execute_iff.mpr ⟨rfl, (executable d hd).kind⟩

theorem exists_failed_of_reference {b : Backend σ} {fs : FileSystem} {columns : Nat}
    {l : RunFile.NumberedLine} {r : Reference} {s : State σ}
    (parsed : Line.parse l.text = .ok (.reference r))
    (changed : (runLine b fs columns l s).state.transaction ≠ s.transaction) :
    ∃ ds, (r.resolve fs).result = .ok ds ∧ ∃ d ∈ ds,
      ∃ x ∈ exchanges (runLine b fs columns l s).trace,
        x.call = .execute d ∧ x.verdict.success = false := by
  cases hr : (r.resolve fs).result with
  | error e =>
    have hleaves : (expand fs l).leaves = .error (e.atLine l.number) := by
      simp only [expand, parsed, hr]
      rfl
    obtain ⟨-, hstate, -⟩ := runLine_of_error b columns s hleaves
    rw [hstate] at changed
    exact absurd rfl changed
  | ok ds =>
    have hleaves : (expand fs l).leaves = .ok ds := by
      simp only [expand, parsed, hr]
      rfl
    refine ⟨ds, rfl, (runLine_of_ok b columns s hleaves).exists_failed (fun d hd => ?_) changed⟩
    exact (Resolution.executable_of_resolve (Line.allowed_of_parse parsed) hr hd).1

/-- Every directive that a run has executed is executable, and has a source exactly when it comes
from a reference and not from a line of its own. Where a reference changes the transaction, a call
for one of its directives has failed. -/
theorem executable_of_executed (b : Backend σ) (fs : FileSystem) (columns : Nat) (text : Text)
    (s : State σ) :
    (∀ x ∈ exchanges (run b fs columns text s).trace, ∀ d, x.call = .execute d →
      d.Executable ∧ (d.source ≠ none ↔ Fetched fs text d) ∧ (d.source = none ↔ Spelled text d)) ∧
    ∀ (l : RunFile.NumberedLine) (r : Reference) (s : State σ),
      Line.parse l.text = .ok (.reference r) →
      (runLine b fs columns l s).state.transaction ≠ s.transaction →
      ∃ ds, (r.resolve fs).result = .ok ds ∧ ∃ d ∈ ds,
        ∃ x ∈ exchanges (runLine b fs columns l s).trace,
          x.call = .execute d ∧ x.verdict.success = false := by
  refine ⟨fun x hx d hcall => ?_, fun l r s => exists_failed_of_reference⟩
  obtain ⟨es, hentry⟩ := exists_entry_of_mem_exchanges hx
  have other : x.call ≠ .control .rollback := by
    rw [hcall]
    exact nofun
  obtain ⟨d', occurs, hcall'⟩ := exists_callFor_of_mem_run hentry other
  obtain ⟨rfl, kind⟩ := callFor_eq_execute_iff.mp (hcall'.symm.trans hcall)
  refine ⟨occurs.executable kind, ⟨fun source => ?_, Fetched.source_ne_none⟩,
    ⟨fun source => ?_, Spelled.source_eq_none⟩⟩
  · exact occurs.spelled_or_fetched.resolve_left fun spelled => source spelled.source_eq_none
  · exact occurs.spelled_or_fetched.resolve_right fun fetched => fetched.source_ne_none source

/-- A report with an option is rejected in a transaction, which is rolled back. -/
theorem executable_of_executed_rejectedReport :
    let fs := (Virtual.empty.put (.ofText "r.sql".toList)
      (.file (Text.encode "!x:1\nB".toList))).fileSystem
    let text := "SQL/TRANSACTION: \nFILE/SQL/report: r.sql\n".toList
    let p := run Backend.recorder fs 80 text (.fresh ⟨["report".toList], []⟩)
    let d : Directive := ⟨.sql, .report, some [("x".toList, .nat 1)], "B".toList,
      some (.ofText "r.sql".toList)⟩
    let l : RunFile.NumberedLine := ⟨2, "FILE/SQL/report: r.sql".toList⟩
    let s : State (Script Verdict) := ⟨⟨["report".toList], []⟩, .opened, 1⟩
    (∃ x ∈ exchanges p.trace, x.call = .execute d) ∧ d.Executable ∧ Fetched fs text d ∧
      (runLine Backend.recorder fs 80 l s).state.transaction = .none ∧
      ∃ d, ∃ x ∈ exchanges (runLine Backend.recorder fs 80 l s).trace,
        x.call = .execute d ∧ x.verdict.success = false := by
  intro fs text p d l s
  obtain ⟨all, references⟩ := executable_of_executed Backend.recorder fs 80 text
    (.fresh ⟨["report".toList], []⟩)
  have executed : ∃ x ∈ exchanges p.trace, x.call = .execute d := ⟨_, .tail _ (.head _), rfl⟩
  obtain ⟨x, hx, hcall⟩ := executed
  obtain ⟨executable, fetched, -⟩ := all x hx d hcall
  have closed : (runLine Backend.recorder fs 80 l s).state.transaction = .none := by decide
  have changed : (runLine Backend.recorder fs 80 l s).state.transaction ≠ s.transaction := by
    rw [closed]
    decide
  obtain ⟨_, -, d', -, failed⟩ := references l ⟨.sql, .report, .ofText "r.sql".toList⟩ s rfl changed
  exact ⟨⟨x, hx, hcall⟩, executable, fetched.mp (Option.some_ne_none _), closed, d', failed⟩

end Engine

end Runbook
