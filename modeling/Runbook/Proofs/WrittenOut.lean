import Runbook.Backend.Scripted
import Runbook.Proofs.GlobSelection
import Runbook.Proofs.Rendering
import Runbook.Proofs.Renumbering

/-! # References written out

In place of a reference its files can be written into the run file, each with a reference of its
own. A run then makes the same calls and comes to the same end, but what stands further down in the
file has other line numbers.
-/
namespace Runbook

open RunFile (Item)

namespace Resolution

variable {fs : FileSystem} {name : Text}

/-- A file whose path can be written on a line, and stands there for this file only. -/
structure Nameable (fs : FileSystem) (name : Text) : Prop where
  file : fs.isFile (.ofText name) = true
  notDirectory : fs.isDirectory (.ofText name) = false
  present : name ≠ []
  noWildcard : Pattern.Glob.wildcard ∉ name
  noFeed : '\n' ∉ name
  trimmed : Text.Trimmed name

theorem files_of_nameable (nameable : Nameable fs name) :
    (files fs (.ofText name)).result = .ok [.ofText name] := by
  simp [files, nameable.notDirectory, nameable.noWildcard, nameable.file]

end Resolution

namespace Engine

open Resolution (Nameable)

variable {σ : Type}

/-! ## Runs without their reports -/

def Entry.isCall : Entry → Bool
  | .log _ => false
  | .call _ _ _ _ => true

def answered (t : Trace) : Trace := t.filter Entry.isCall

theorem answered_map_log (es : List Event) : answered (es.map .log) = [] := by
  induction es with
  | nil => rfl
  | cons e es ih => exact ih

namespace Progress

def unreported (p : Progress σ) : Progress σ := { p with trace := answered p.trace }

theorem unreported_after_logs (es : List Event) (p : Progress σ) :
    (p.after (es.map .log)).unreported = p.unreported := by
  simp only [unreported, after, answered, List.filter_append]
  exact congrArg (Progress.mk _ _) (congrArg (· ++ _) (answered_map_log es))

theorem unreported_andThen (p : Progress σ) (next : State σ → Progress σ) :
    (p.andThen next).unreported = p.unreported.andThen fun s => (next s).unreported := by
  obtain ⟨failure, state, trace⟩ := p
  cases failure with
  | some e => rfl
  | none => simp only [unreported, andThen, after, answered, List.filter_append]

end Progress

variable {b : Backend σ} {fs : FileSystem} {columns : Nat}

/-- A line does what is done when the directives that it stands for are sent. -/
theorem unreported_runLine {l : RunFile.NumberedLine} {ds : List Directive}
    (leaves : (expand fs l).leaves = .ok ds) (s : State σ) :
    (runLine b fs columns l s).unreported = (forEach (step b columns) ds s).unreported := by
  simp only [runLine, leaves, Progress.unreported_after_logs]

/-! ## Written references -/

variable {r : Reference} {name line : Text} {d : Directive}

theorem expand_of_writes (allowed : Line.Allowed r.kind r.subtype) (nameable : Nameable fs name)
    (writes : (Item.reference r.kind r.subtype name).Writes line)
    (leaf : Resolution.leaf fs r (.ofText name) = .ok d) (number : Nat) :
    (expand fs ⟨number, line⟩).leaves = .ok [d] := by
  have writable : (Item.reference r.kind r.subtype name).Writable :=
    .reference allowed nameable.present nameable.noFeed nameable.trimmed
  have parsed : Line.parse line = .ok (.reference ⟨r.kind, r.subtype, .ofText name⟩) :=
    writes.parse_eq writable
  have single : Resolution.leaves fs r [.ofText name] = .ok [d] :=
    Resolution.leaves_cons_eq_ok.mpr ⟨d, [], leaf, rfl, rfl⟩
  have resolved : (Reference.resolve fs ⟨r.kind, r.subtype, .ofText name⟩).result = .ok [d] := by
    rw [Resolution.resolve_result, Resolution.files_of_nameable nameable]
    exact (Resolution.leaves_path r.kind r.subtype _ r.path _).trans single
  simp only [expand, parsed, resolved]
  rfl

/-- The lines that are written for some files do what is done when the directives in them are
sent. -/
theorem unreported_runLines_of_writes (allowed : Line.Allowed r.kind r.subtype)
    {names written : List Text} {ds : List Directive}
    (nameable : ∀ name ∈ names, Nameable fs name)
    (writes : List.Forall₂ (fun name => (Item.reference r.kind r.subtype name).Writes)
      names written)
    (leaves : Resolution.leaves fs r (names.map .ofText) = .ok ds) (number : Nat) (s : State σ) :
    (forEach (runLine b fs columns) (RunFile.linesFrom number written) s).unreported =
      (forEach (step b columns) ds s).unreported := by
  induction writes generalizing number s ds with
  | nil =>
    cases leaves
    rfl
  | @cons name line names written first _ ih =>
    obtain ⟨d, ds, leaf, others, rfl⟩ := Resolution.leaves_cons_eq_ok.mp leaves
    obtain ⟨hname, rest⟩ := List.forall_mem_cons.mp nameable
    have hline : (runLine b fs columns ⟨number, line⟩ s).unreported =
        (step b columns d s).unreported := by
      rw [unreported_runLine (expand_of_writes allowed hname first leaf number), forEach_singleton]
    -- The line sends the first directive, and the lines after it send the others.
    rw [RunFile.linesFrom, if_neg (by simp [first.isComment_eq_false]), forEach, forEach,
      Progress.unreported_andThen, Progress.unreported_andThen, hline]
    congr 1
    funext t
    exact ih rest others (number + 1) t

/-! ## Runs -/

/-- The number that a line has when another is replaced by some lines. -/
def movedBelow (replaced lines number : Nat) : Nat :=
  if number ≤ replaced then number else number + lines - 1

theorem linesFrom_above (above : List Text) (n : Nat) :
    (RunFile.linesFrom 1 above).map (.renumber (movedBelow (above.length + 1) n)) =
      RunFile.linesFrom 1 above := by
  symm
  apply RunFile.linesFrom_renumber
  intro i hi
  rw [movedBelow, if_pos (by omega)]

theorem linesFrom_below (below : List Text) (k n : Nat) :
    (RunFile.linesFrom (k + 1) below).map (.renumber (movedBelow k n)) =
      RunFile.linesFrom (k + n) below := by
  symm
  apply RunFile.linesFrom_renumber
  intro i _
  rw [movedBelow, if_neg (by omega)]
  omega

theorem run_of_lines (b : Backend σ) (fs : FileSystem) (columns : Nat) {text : Text}
    {above here below : List Text} (lines : Text.lines text = above ++ here ++ below)
    (s : State σ) :
    run b fs columns text s =
      (forEach (runLine b fs columns) (RunFile.linesFrom 1 above) s).andThen fun t =>
        (forEach (runLine b fs columns) (RunFile.linesFrom (above.length + 1) here) t).andThen
          fun u => (forEach (runLine b fs columns)
            (RunFile.linesFrom (above.length + 1 + here.length) below) u).andThen finish := by
  rw [run, RunFile.lines, lines, List.append_assoc, RunFile.linesFrom_append,
    RunFile.linesFrom_append, forEach_append, Progress.andThen_assoc, Nat.add_comm 1]
  congr 1
  funext t
  rw [forEach_append, Progress.andThen_assoc]

/-- The run on a text as it would be if the lines below one had other numbers. -/
theorem run_renumber_below (b : Backend σ) (fs : FileSystem) (columns : Nat) {text line : Text}
    {above below : List Text} (lines : Text.lines text = above ++ line :: below)
    (noComment : RunFile.isComment line = false) (n : Nat) (s : State σ) :
    (run b fs columns text s).renumber (movedBelow (above.length + 1) n) =
      (forEach (runLine b fs columns) (RunFile.linesFrom 1 above) s).andThen fun t =>
        (runLine b fs columns ⟨above.length + 1, line⟩ t).andThen fun u =>
          (forEach (runLine b fs columns)
            (RunFile.linesFrom (above.length + 1 + n) below) u).andThen finish := by
  have split : Text.lines text = above ++ [line] ++ below := by
    rw [lines, List.append_assoc]
    rfl
  have hline : RunFile.linesFrom (above.length + 1) [line] = [⟨above.length + 1, line⟩] := by
    rw [RunFile.linesFrom, if_neg (by simp [noComment])]
    rfl
  have hnumber : movedBelow (above.length + 1) n (above.length + 1) = above.length + 1 :=
    if_pos (Nat.le_refl _)
  rw [run_of_lines b fs columns split, Progress.renumber_andThen, ← runLines_renumber,
    linesFrom_above, hline, forEach_singleton]
  congr 1
  funext t
  rw [Progress.renumber_andThen, ← runLine_renumber, RunFile.NumberedLine.renumber, hnumber]
  congr 1
  funext u
  rw [Progress.renumber_andThen, ← runLines_renumber, List.length_singleton, linesFrom_below]
  congr 1
  funext v
  exact finish_renumber _ v

/-- Where the files of a reference are written into a text in place of its line, each on a line of
its own, a run makes the same calls with the same answers and leaves the engine in the same state.
Its result is the same too, but a parse error below tells the number that its line has moved to. -/
theorem run_writtenOut (b : Backend σ) (fs : FileSystem) (columns : Nat) (s : State σ)
    {text text' line : Text} {above below names written : List Text} {r : Reference}
    {ds : List Directive} (lines : Text.lines text = above ++ line :: below)
    (noComment : RunFile.isComment line = false) (parsed : Line.parse line = .ok (.reference r))
    (found : (Resolution.files fs r.path).result = .ok (names.map .ofText))
    (resolved : (r.resolve fs).result = .ok ds) (nameable : ∀ name ∈ names, Nameable fs name)
    (writes : List.Forall₂ (fun name => (Item.reference r.kind r.subtype name).Writes)
      names written)
    (lines' : Text.lines text' = above ++ written ++ below) :
    let plain := run b fs columns text s
    let other := run b fs columns text' s
    answered other.trace = answered plain.trace ∧ other.state = plain.state ∧
      other.failure = plain.failure.map
        (RunError.renumber (movedBelow (above.length + 1) names.length)) := by
  intro plain other
  have expanded : (expand fs ⟨above.length + 1, line⟩).leaves = .ok ds := by
    simp only [expand, parsed, resolved]
    rfl
  have leaves : Resolution.leaves fs r (names.map .ofText) = .ok ds := by
    rw [Resolution.resolve_result, found] at resolved
    exact resolved
  have hplain := run_renumber_below b fs columns lines noComment names.length s
  have hother := run_of_lines b fs columns lines' s
  -- The runs part at the reference, where they do the same but report it differently.
  have same : (run b fs columns text' s).unreported = ((run b fs columns text s).renumber
      (movedBelow (above.length + 1) names.length)).unreported := by
    rw [hplain, hother, ← writes.length_eq, Progress.unreported_andThen,
      Progress.unreported_andThen]
    congr 1
    funext t
    rw [Progress.unreported_andThen, Progress.unreported_andThen, unreported_runLine expanded,
      unreported_runLines_of_writes (Line.allowed_of_parse parsed) nameable writes leaves]
  obtain ⟨failure, state, trace⟩ := Progress.mk.inj same
  exact ⟨trace, state, failure⟩

def shelfFiles : List Text := ["d/a/x.sql".toList, "d/a.sql".toList, "d/b.sql".toList]

def shelfLines : List Text :=
  ["FILE/SQL/report: d/a/x.sql".toList, "file/sql/report : d/a.sql".toList,
    "FILE/SQL/REPORT: d/b.sql".toList]

theorem shelfLines_writes :
    List.Forall₂ (fun name => (Item.reference .sql .report name).Writes) shelfFiles shelfLines := by
  have hnone : RunFile.IsMargin [] := ⟨rfl, by decide⟩
  have hspace : RunFile.IsMargin " ".toList := ⟨by decide, by decide⟩
  have write : ∀ name right, RunFile.IsMargin right → ∀ tag ∈ ["FILE/SQL/report".toList,
      "file/sql/report".toList, "FILE/SQL/REPORT".toList],
      (Item.reference .sql .report name).Writes ([] ++ tag ++ right ++ Line.separator ++ name) := by
    intro name right after tag htag
    have spelled : ∀ tag ∈ ["FILE/SQL/report".toList, "file/sql/report".toList,
        "FILE/SQL/REPORT".toList], Text.SameLetters tag "FILE/SQL/report".toList := by
      unfold Text.SameLetters
      decide
    exact .line hnone (spelled tag htag) after
  exact .cons (write _ [] hnone _ (.head _))
    (.cons (write _ " ".toList hspace _ (.tail _ (.head _)))
      (.cons (write _ [] hnone _ (.tail _ (.tail _ (.head _)))) .nil))

theorem shelfFiles_nameable : ∀ name ∈ shelfFiles, Nameable Resolution.shelf name := by
  refine List.forall_mem_cons.mpr ⟨?_, List.forall_mem_cons.mpr
    ⟨?_, List.forall_mem_singleton.mpr ?_⟩⟩
  all_goals exact ⟨by decide, by decide, by decide, by decide, by decide,
    ⟨by simp [Text.isBlank], by simp [Text.isBlank]⟩⟩

/-- A directory in a transaction, with a line below that cannot be read. -/
theorem run_writtenOut_shelf :
    let text := "SQL/TRANSACTION: \nFILE/SQL/report: d\nBOGUS: x\n".toList
    let text' := ("SQL/TRANSACTION: \nFILE/SQL/report: d/a/x.sql\nfile/sql/report : d/a.sql\n" ++
      "FILE/SQL/REPORT: d/b.sql\nBOGUS: x\n").toList
    let plain := run Backend.recorder Resolution.shelf 80 text (.fresh ⟨[], []⟩)
    let other := run Backend.recorder Resolution.shelf 80 text' (.fresh ⟨[], []⟩)
    answered other.trace = answered plain.trace ∧ other.state = plain.state ∧
      (answered other.trace).length = 4 ∧
      plain.failure = some (.parse 3 "unknown directive 'BOGUS'".toList) ∧
      other.failure = some (.parse 5 "unknown directive 'BOGUS'".toList) := by
  intro text text' plain other
  have tree := Resolution.shelf_shows.lists
  have found : (Resolution.files Resolution.shelf (.ofText "d".toList)).result =
      .ok (shelfFiles.map .ofText) := by
    rw [Resolution.files, if_pos tree.isDirectory]
    exact tree.filesBelow_eq
  have resolved :
      (Reference.resolve Resolution.shelf ⟨.sql, .report, .ofText "d".toList⟩).result = .ok
        [⟨.sql, .report, none, "X".toList, some (.ofText "d/a/x.sql".toList)⟩,
          ⟨.sql, .report, none, "A".toList, some (.ofText "d/a.sql".toList)⟩,
          ⟨.sql, .report, none, "B".toList, some (.ofText "d/b.sql".toList)⟩] := by
    rw [Resolution.resolve_of_shows Resolution.shelf_shows]
    rfl
  have lines : Text.lines text = ["SQL/TRANSACTION: ".toList] ++
      "FILE/SQL/report: d".toList :: ["BOGUS: x".toList] := rfl
  obtain ⟨hcalls, hstate, hfailure⟩ : answered other.trace = answered plain.trace ∧
      other.state = plain.state ∧
      other.failure = plain.failure.map (RunError.renumber (movedBelow 2 3)) :=
    run_writtenOut Backend.recorder Resolution.shelf 80 (.fresh ⟨[], []⟩) lines rfl rfl found
      resolved shelfFiles_nameable shelfLines_writes rfl
  have hother : other.failure = some (.parse 5 "unknown directive 'BOGUS'".toList) := by decide
  have hplain : plain.failure = some (.parse 3 "unknown directive 'BOGUS'".toList) := by
    rw [hother] at hfailure
    obtain ⟨e, he, hmoved⟩ := Option.map_eq_some_iff.mp hfailure.symm
    cases e with
    | parse number m =>
      obtain ⟨hnumber, rfl⟩ := RunError.parse.inj hmoved
      have hthree : number = 3 := by
        rw [movedBelow] at hnumber
        split at hnumber <;> omega
      rw [he, hthree]
    | fileNotFound | io | configuration | backend | rollback | connect | settings => cases hmoved
  exact ⟨hcalls, hstate, by decide, hplain, hother⟩

end Engine

end Runbook
