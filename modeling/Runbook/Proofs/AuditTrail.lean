import Mathlib.Data.List.DropRight
import Runbook.Proofs.Course

/-! # The audit trail

At a debug level the record of a run has its calls and those of its events that count. Every call in
it other than a rollback stands between the announcement of its directive and, where details count,
its diagnostic; a rollback comes after a warning; and how many directives were accepted ends the
record of a run that succeeds. What a backend reports itself is part of its call.
-/
namespace Runbook

/-- What is reported about a reference, which is neither about a call nor about the run. -/
inductive Event.IsAside : Event → Prop
  | debug (m : Text) : IsAside (.debug m)
  | error (m : Text) : IsAside (.error m)

theorem Event.IsAside.counts {e : Event} (h : e.IsAside) (level : Nat) : e.counts level = true := by
  cases h <;> rfl

theorem Resolution.isAside_of_mem_files {fs : FileSystem} {p : Path} {e : Event}
    (h : e ∈ (files fs p).events) : e.IsAside := by
  have glob : ∀ e ∈ (globFiles fs p).events, e.IsAside := by
    intro e he
    simp only [globFiles] at he
    split at he
    · cases List.mem_singleton.mp he
      exact .error _
    · split at he <;> cases he
  simp only [files] at h
  split at h
  · cases h
  · split at h
    · exact glob e h
    · split at h <;> cases h

theorem Reference.isAside_of_mem_resolve {fs : FileSystem} {r : Reference} {e : Event}
    (h : e ∈ (r.resolve fs).events) : e.IsAside := by
  simp only [resolve] at h
  split at h
  · exact Resolution.isAside_of_mem_files h
  · rcases List.mem_append.mp h with h | h
    · exact Resolution.isAside_of_mem_files h
    · cases List.mem_singleton.mp h
      exact .debug _

theorem RunFile.mem_linesFrom {lines : List Text} {n : Nat} {l : NumberedLine}
    (h : l ∈ linesFrom n lines) : l.text ∈ lines ∧ isComment l.text = false := by
  induction lines generalizing n with
  | nil => cases h
  | cons line lines ih =>
    rw [linesFrom] at h
    split at h
    · exact ⟨List.mem_cons_of_mem _ (ih h).1, (ih h).2⟩
    · rename_i noComment
      rcases List.mem_cons.mp h with rfl | h
      · exact ⟨List.mem_cons_self, Bool.eq_false_iff.mpr noComment⟩
      · exact ⟨List.mem_cons_of_mem _ (ih h).1, (ih h).2⟩

namespace Engine

variable {σ : Type}

theorem isAside_of_mem_expand {fs : FileSystem} {l : RunFile.NumberedLine} {e : Event}
    (h : e ∈ (expand fs l).events) : e.IsAside := by
  simp only [expand] at h
  split at h
  · cases h
  · cases h
  · exact Reference.isAside_of_mem_resolve h

namespace Entry

def isLog : Entry → Bool
  | .log _ => true
  | .call .. => false

def counts (level : Nat) : Entry → Bool
  | .log e => e.counts level
  | .call .. => true

def announced? : Entry → Option (Text × Option Path)
  | .log (.directive m source) => some (m, source)
  | _ => none

def detail? : Entry → Option (Nat × Text)
  | .log (.detail least m) => some (least, m)
  | _ => none

end Entry

def recorded (level : Nat) (t : Trace) : Trace := t.filter (Entry.counts level)

def sinceCall (t : Trace) : Trace := t.rtakeWhile Entry.isLog

def untilCall (t : Trace) : Trace := t.takeWhile Entry.isLog

def diagnosticAt (level : Nat) (v : Verdict) : List (Nat × Text) :=
  if 5 ≤ level then [(5, v.diagnostic.render)] else []

/-- What stands around an entry of a record, in which the directives have a property. -/
structure Placed (level columns : Nat) (Q : Directive → Prop) (before : Trace) (x : Entry)
    (after : Trace) : Prop where
  announced : ∀ c t v es, x = .call c t v es → c ≠ .control .rollback →
    ∃ earlier d, Q d ∧ c = callFor d ∧
      before = earlier ++ [.log (.directive (Text.clip d.describe (columns - 3)) d.source)]
  followed : ∀ m source, x = .log (.directive m source) →
    ∃ d t v es rest, Q d ∧ m = Text.clip d.describe (columns - 3) ∧ source = d.source ∧
      after = .call (callFor d) t v es :: rest
  detailed : ∀ c t v es, x = .call c t v es → c ≠ .control .rollback →
    (untilCall after).filterMap Entry.detail? = diagnosticAt level v
  warned : ∀ t v es, x = .call (.control .rollback) t v es →
    ∃ earlier, before = earlier ++ [.log (.warn "Rolling back transaction".toList)] ∧
      ∀ m, .log (.warn m) ∉ earlier

/-- A directive that the lines of a text stand for. -/
def Occurs (fs : FileSystem) (text : Text) (d : Directive) : Prop :=
  ∃ line ∈ Text.lines text, ∃ ds, Stands fs line ds ∧ d ∈ ds

/-- The record of a run on a text tells each call, and how the run ended. -/
structure AuditTrail (level columns : Nat) (fs : FileSystem) (text : Text) (p : Progress σ) :
    Prop where
  placed : ∀ before x after, recorded level p.trace = before ++ x :: after →
    Placed level columns (Occurs fs text) before x after
  once : ∀ before c t v es after, recorded level p.trace = before ++ .call c t v es :: after →
    c ≠ .control .rollback → ((sinceCall before).filterMap Entry.announced?).length = 1
  completed : p.failure = none → ∃ earlier,
    recorded level p.trace = earlier ++ [.log (.info ("Executed ".toList ++
      Text.ofNat p.state.executed ++ " directive(s)".toList))] ∧ ∀ m, .log (.info m) ∉ earlier
  failed : p.failure ≠ none → ∀ m, .log (.info m) ∉ recorded level p.trace

/-! ## Records -/

def diagnosticEntry (level : Nat) (v : Verdict) : Trace :=
  (diagnosticAt level v).map fun d => .log (.detail d.1 d.2)

/-- A record that ends as given: asides, and directives that are sent. -/
inductive Record (level columns : Nat) (Q : Directive → Prop) (ending : Trace) : Trace → Prop
  | ending : Record level columns Q ending ending
  | aside {e : Event} {r : Trace} (isAside : e.IsAside) (rest : Record level columns Q ending r) :
      Record level columns Q ending (.log e :: r)
  | sent {d : Directive} {r : Trace} (made : Q d) (t : Transaction) (v : Verdict)
      (es : List Emission) (rest : Record level columns Q ending r) :
      Record level columns Q ending (.log (announcement columns d) :: .call (callFor d) t v es ::
        (diagnosticEntry level v ++ r))

namespace Record

variable {level columns : Nat} {Q : Directive → Prop} {ending r u : Trace}

theorem append (h : Record level columns Q [] r) (h' : Record level columns Q ending u) :
    Record level columns Q ending (r ++ u) := by
  induction h with
  | ending => exact h'
  | aside isAside _ ih => exact .aside isAside ih
  | sent made t v es _ ih =>
    simp only [List.cons_append, List.append_assoc]
    exact .sent made t v es ih

theorem asides {es : List Event} (h : ∀ e ∈ es, e.IsAside) :
    Record level columns Q [] (es.map .log) := by
  induction es with
  | nil => exact .ending
  | cons e es ih =>
    obtain ⟨first, rest⟩ := List.forall_mem_cons.mp h
    exact .aside first (ih rest)

/-- No detail comes before the first call. -/
theorem details_untilCall (h : Record level columns Q ending r)
    (last : (untilCall ending).filterMap Entry.detail? = []) :
    (untilCall r).filterMap Entry.detail? = [] := by
  induction h with
  | ending => exact last
  | aside isAside _ ih => cases isAside <;> exact ih
  | sent => rfl

/-- After a call come its diagnostic and what is reported otherwise. -/
theorem details_untilCall_diagnosticEntry (level : Nat) (v : Verdict)
    (h : (untilCall r).filterMap Entry.detail? = []) :
    (untilCall (diagnosticEntry level v ++ r)).filterMap Entry.detail? = diagnosticAt level v := by
  rw [diagnosticEntry, diagnosticAt]
  split
  · exact congrArg (_ :: ·) h
  · exact h

/-- An entry of a record belongs to its ending, or is an aside, or belongs to a directive. -/
theorem mem_cases (h : Record level columns Q ending r) {x : Entry} (hx : x ∈ r) :
    x ∈ ending ∨ (∃ e : Event, x = .log e ∧ e.IsAside) ∨
      ∃ d, Q d ∧ (x = .log (announcement columns d) ∨
        ∃ t v es, x = .call (callFor d) t v es ∨ x ∈ diagnosticEntry level v) := by
  induction h with
  | ending => exact .inl hx
  | aside isAside _ ih =>
    rcases List.mem_cons.mp hx with rfl | hx
    · exact .inr (.inl ⟨_, rfl, isAside⟩)
    · exact ih hx
  | sent made t v es _ ih =>
    rcases List.mem_cons.mp hx with rfl | hx
    · exact .inr (.inr ⟨_, made, .inl rfl⟩)
    rcases List.mem_cons.mp hx with rfl | hx
    · exact .inr (.inr ⟨_, made, .inr ⟨t, v, es, .inl rfl⟩⟩)
    rcases List.mem_append.mp hx with hx | hx
    · exact .inr (.inr ⟨_, made, .inr ⟨t, v, es, .inr hx⟩⟩)
    · exact ih hx

theorem infos (h : Record level columns Q ending r) :
    ∃ earlier, r = earlier ++ ending ∧ ∀ m, .log (.info m) ∉ earlier := by
  induction h with
  | ending => exact ⟨[], rfl, fun m h => by cases h⟩
  | aside isAside _ ih =>
    obtain ⟨earlier, rfl, none⟩ := ih
    refine ⟨_ :: earlier, rfl, fun m hm => ?_⟩
    rcases List.mem_cons.mp hm with hm | hm
    · cases hm
      cases isAside
    · exact none m hm
  | @sent d _ _ t v es _ ih =>
    obtain ⟨earlier, rfl, none⟩ := ih
    refine ⟨.log (announcement columns d) :: .call (callFor d) t v es ::
      (diagnosticEntry level v ++ earlier), by simp, fun m hm => ?_⟩
    simp only [List.mem_cons, List.mem_append, announcement, diagnosticEntry, List.mem_map,
      reduceCtorEq, Entry.log.injEq, false_or, and_false, exists_false] at hm
    exact none m hm

end Record

/-! ## What stands around an entry -/

def AllPlaced (level columns : Nat) (Q : Directive → Prop) (before r : Trace) : Prop :=
  ∀ mid x after, r = mid ++ x :: after → Placed level columns Q (before ++ mid) x after

section

variable {level columns : Nat} {Q : Directive → Prop} {before after ending r : Trace}

namespace AllPlaced

theorem nil : AllPlaced level columns Q before [] := by
  intro mid x after h
  cases mid <;> cases h

theorem cons {x : Entry} (first : Placed level columns Q before x r)
    (rest : AllPlaced level columns Q (before ++ [x]) r) :
    AllPlaced level columns Q before (x :: r) := by
  intro mid y after h
  cases mid with
  | nil =>
    obtain ⟨rfl, rfl⟩ := List.cons.inj h
    rwa [List.append_nil]
  | cons z mid =>
    obtain ⟨rfl, hr⟩ := List.cons.inj h
    rw [← List.singleton_append, ← List.append_assoc]
    exact rest mid y after hr

end AllPlaced

theorem Placed.log {e : Event} (h : ∀ m source, e ≠ .directive m source) :
    Placed level columns Q before (.log e) after where
  announced := nofun
  followed := fun m source hx => absurd (Entry.log.inj hx) (h m source)
  detailed := nofun
  warned := nofun

theorem Placed.announcement {d : Directive} (made : Q d) (t : Transaction) (v : Verdict)
    (es : List Emission) :
    Placed level columns Q before (.log (announcement columns d))
      (.call (callFor d) t v es :: after) where
  announced := nofun
  followed := fun m source hx => by
    obtain ⟨rfl, rfl⟩ := Event.directive.inj (Entry.log.inj hx)
    exact ⟨d, t, v, es, after, made, rfl, rfl, rfl⟩
  detailed := nofun
  warned := nofun

theorem Placed.call {d : Directive} (made : Q d) (t : Transaction) (v : Verdict)
    (es : List Emission)
    (details : (untilCall after).filterMap Entry.detail? = diagnosticAt level v) :
    Placed level columns Q (before ++ [.log (Engine.announcement columns d)])
      (.call (callFor d) t v es) after where
  announced := fun c _ _ _ hx _ => by
    cases hx
    exact ⟨before, d, made, rfl, rfl⟩
  followed := nofun
  detailed := fun _ _ _ _ hx _ => by
    cases hx
    exact details
  warned := fun _ _ _ hx => absurd (Entry.call.inj hx).1 (callFor_ne_rollback d)

theorem Placed.rollback (t : Transaction) (v : Verdict) (es : List Emission)
    (calm : ∀ m, .log (.warn m) ∉ before) :
    Placed level columns Q (before ++ [.log (.warn "Rolling back transaction".toList)])
      (.call (.control .rollback) t v es) after where
  announced := fun _ _ _ _ hx hc => absurd (Entry.call.inj hx).1.symm hc
  followed := nofun
  detailed := fun _ _ _ _ hx hc => absurd (Entry.call.inj hx).1.symm hc
  warned := fun _ _ _ _ => ⟨before, rfl, calm⟩

theorem AllPlaced.diagnosticEntry {v : Verdict}
    (rest : AllPlaced level columns Q (before ++ diagnosticEntry level v) r) :
    AllPlaced level columns Q before (Engine.diagnosticEntry level v ++ r) := by
  rw [Engine.diagnosticEntry, diagnosticAt] at *
  split at rest
  · rename_i counts
    rw [if_pos counts]
    exact .cons (.log nofun) rest
  · rename_i counts
    rw [if_neg counts]
    rwa [List.map_nil, List.append_nil] at rest

/-- A record is placed if its ending is, after anything without a warning. -/
theorem Record.allPlaced (h : Record level columns Q ending r)
    (details : (untilCall ending).filterMap Entry.detail? = [])
    (last : ∀ before, (∀ m, .log (.warn m) ∉ before) → AllPlaced level columns Q before ending)
    (calm : ∀ m, .log (.warn m) ∉ before) : AllPlaced level columns Q before r := by
  induction h generalizing before with
  | ending => exact last before calm
  | aside isAside _ ih =>
    cases isAside <;>
      exact .cons (.log nofun) (ih fun m => List.not_mem_append (calm m) (by simp))
  | sent made t v es rest ih =>
    have after := details_untilCall_diagnosticEntry level v (rest.details_untilCall details)
    refine .cons (.announcement made t v es) (.cons (.call made t v es after)
      (.diagnosticEntry (ih fun m hm => ?_)))
    simp only [List.mem_append, List.mem_singleton, diagnosticEntry, List.mem_map, reduceCtorEq,
      announcement, Entry.log.injEq, or_false, and_false, exists_false] at hm
    exact calm m hm

/-- Where something is reported next, no announcement is left without its call. -/
theorem AllPlaced.nothing_announced (h : AllPlaced level columns Q [] r) {e : Event}
    (split : r = before ++ .log e :: after) :
    (sinceCall before).filterMap Entry.announced? = [] := by
  induction before using List.reverseRecOn generalizing e after with
  | nil => rfl
  | append_singleton earlier x ih =>
    rw [List.append_assoc, List.singleton_append] at split
    cases x with
    | call c t v es =>
      rw [sinceCall, List.rtakeWhile_concat_neg _ _ _ Bool.false_ne_true]
      rfl
    | log e' =>
      have unannounced : Entry.announced? (.log e') = none := by
        cases e' with
        | directive m source =>
          obtain ⟨_, _, _, _, _, -, -, -, hafter⟩ := (h earlier _ _ split).followed m source rfl
          cases hafter
        | _ => rfl
      rw [sinceCall, List.rtakeWhile_concat_pos _ _ _ rfl, List.filterMap_append,
        List.filterMap_cons_none unannounced]
      exact List.append_eq_nil_iff.mpr ⟨ih split, rfl⟩

theorem AllPlaced.once (h : AllPlaced level columns Q [] r) {c : Call} {t : Transaction}
    {v : Verdict} {es : List Emission} (split : r = before ++ .call c t v es :: after)
    (hc : c ≠ .control .rollback) :
    ((sinceCall before).filterMap Entry.announced?).length = 1 := by
  obtain ⟨earlier, d, -, -, rfl⟩ := (h before _ after split).announced c t v es rfl hc
  rw [List.append_assoc, List.singleton_append] at split
  rw [sinceCall, List.rtakeWhile_concat_pos _ _ _ rfl, List.filterMap_append, List.length_append]
  exact congrArg (fun l => l.length + 1) (h.nothing_announced split)

end

/-! ## The record of a run -/

/-- What ends the record of a part of a run, by its failure: as given, nothing, or a rollback. -/
inductive Closing (done : Trace) : Option RunError → Trace → Prop
  | through : Closing done none done
  | stopped (e : RunError) : Closing done (some e) []
  | rolledBack (e : RunError) (t : Transaction) (v : Verdict) (es : List Emission) :
      Closing done (some e) [.log (.warn "Rolling back transaction".toList),
        .call (.control .rollback) t v es]

/-- What a part of a run records; `done n` ends it when it succeeds with `n` directives accepted. -/
def Recorded (level columns : Nat) (Q : Directive → Prop) (done : Nat → Trace) (p : Progress σ) :
    Prop :=
  ∃ ending, Closing (done p.state.executed) p.failure ending ∧
    Record level columns Q ending (recorded level p.trace)

theorem recorded_append (level : Nat) (t u : Trace) :
    recorded level (t ++ u) = recorded level t ++ recorded level u := List.filter_append ..

theorem recorded_asides (level : Nat) {es : List Event} (h : ∀ e ∈ es, e.IsAside) :
    recorded level (es.map .log) = es.map .log := by
  apply List.filter_eq_self.mpr
  intro x hx
  obtain ⟨e, he, rfl⟩ := List.mem_map.mp hx
  exact (h e he).counts level

/-- A directive that is sent is recorded with its call and its diagnostic. -/
theorem record_exchange (level columns : Nat) {Q : Directive → Prop} {d : Directive} (made : Q d)
    (t : Transaction) (v : Verdict) (es : List Emission) :
    Record level columns Q [] (recorded level [.log (announcement columns d),
      .call (callFor d) t v es, .log (.detail diagnosticLevel v.diagnostic.render)]) := by
  have kept : recorded level [.log (announcement columns d), .call (callFor d) t v es,
      .log (.detail diagnosticLevel v.diagnostic.render)] =
      .log (announcement columns d) :: .call (callFor d) t v es ::
        (diagnosticEntry level v ++ []) := by
    by_cases h : 5 ≤ level <;>
      simp [recorded, List.filter_cons, Entry.counts, Event.counts, announcement, diagnosticLevel,
        diagnosticEntry, diagnosticAt, h]
  rw [kept]
  exact .sent made t v es .ending

namespace Recorded

variable {level columns : Nat} {Q : Directive → Prop} {done : Nat → Trace} {p : Progress σ}

theorem after {first : Trace} (h : Recorded level columns Q done p)
    (h' : Record level columns Q [] (recorded level first)) :
    Recorded level columns Q done (p.after first) := by
  obtain ⟨ending, closing, record⟩ := h
  refine ⟨ending, closing, ?_⟩
  rw [Progress.after, recorded_append]
  exact h'.append record

theorem andThen {next : State σ → Progress σ} (h : Recorded level columns Q (fun _ => []) p)
    (h' : ∀ s, Recorded level columns Q done (next s)) :
    Recorded level columns Q done (p.andThen next) := by
  obtain ⟨ending, closing, record⟩ := h
  cases hf : p.failure with
  | none =>
    rw [hf] at closing
    cases closing
    rw [Progress.andThen_of_none hf]
    exact (h' p.state).after record
  | some e =>
    rw [Progress.andThen_of_some hf]
    rw [hf] at closing
    refine ⟨ending, ?_, record⟩
    rw [hf]
    cases closing with
    | stopped => exact .stopped e
    | rolledBack _ t v es => exact .rolledBack e t v es

theorem forEach {α : Type} {f : α → State σ → Progress σ} {l : List α}
    (h : ∀ a ∈ l, ∀ s, Recorded level columns Q (fun _ => []) (f a s)) (s : State σ) :
    Recorded level columns Q (fun _ => []) (forEach f l s) := by
  induction l generalizing s with
  | nil => exact ⟨[], .through, .ending⟩
  | cons a l ih =>
    obtain ⟨first, rest⟩ := List.forall_mem_cons.mp h
    exact (first s).andThen (ih rest)

theorem fail (b : Backend σ) (d : Directive) (m : Text) (s : State σ) :
    Recorded level columns Q (fun _ => []) (fail b d m s) := by
  rw [Engine.fail]
  cases s.transaction with
  | none => exact ⟨_, .stopped _, .ending⟩
  | opened => exact ⟨_, .rolledBack _ _ _ _, .ending⟩

theorem step {d : Directive} (made : Q d) (b : Backend σ) (s : State σ) :
    Recorded level columns Q (fun _ => []) (step b columns d s) := by
  rw [Engine.step]
  cases refusal? s.transaction d.kind with
  | some e => exact ⟨_, .stopped e, .ending⟩
  | none =>
    have sent := record_exchange level columns made s.transaction
      (b.call (callFor d) s.backend).verdict (b.call (callFor d) s.backend).emissions
    simp only
    split
    · exact ⟨_, .through, sent⟩
    · exact (fail b d _ _).after sent

theorem runLine {fs : FileSystem} {l : RunFile.NumberedLine}
    (made : ∀ ds, (expand fs l).leaves = .ok ds → ∀ d ∈ ds, Q d) (b : Backend σ) (s : State σ) :
    Recorded level columns Q (fun _ => []) (runLine b fs columns l s) := by
  have asides : ∀ e ∈ (expand fs l).events, e.IsAside := fun e => isAside_of_mem_expand
  have reported : Record level columns Q [] (recorded level ((expand fs l).events.map .log)) := by
    rw [recorded_asides level asides]
    exact .asides asides
  refine Recorded.after ?_ reported
  cases hl : (expand fs l).leaves with
  | error e => exact ⟨_, .stopped e, .ending⟩
  | ok ds => exact forEach (fun d hd => step (made ds hl d hd) b) s

end Recorded

theorem occurs_of_mem_lines {fs : FileSystem} {text : Text} {l : RunFile.NumberedLine}
    {ds : List Directive} {d : Directive} (h : l ∈ RunFile.lines text)
    (leaves : (expand fs l).leaves = .ok ds) (hd : d ∈ ds) : Occurs fs text d := by
  obtain ⟨hl, noComment⟩ := RunFile.mem_linesFrom h
  rcases expand_cases fs l.number noComment with ⟨es, hes, stands⟩ | ⟨e, he, -⟩
  · cases leaves.symm.trans hes
    exact ⟨l.text, hl, ds, stands, hd⟩
  · cases leaves.symm.trans he

def lastReport (n : Nat) : Trace :=
  [.log (.info ("Executed ".toList ++ Text.ofNat n ++ " directive(s)".toList))]

theorem recorded_run (level : Nat) (b : Backend σ) (fs : FileSystem) (columns : Nat) (text : Text)
    (s : State σ) :
    Recorded level columns (Occurs fs text) lastReport (run b fs columns text s) := by
  have line : ∀ l ∈ RunFile.lines text, ∀ s,
      Recorded level columns (Occurs fs text) (fun _ => []) (runLine b fs columns l s) :=
    fun l hl => .runLine (fun ds leaves d hd => occurs_of_mem_lines hl leaves hd) b
  refine (Recorded.forEach line s).andThen fun s => ?_
  rw [finish]
  cases s.transaction with
  | none => exact ⟨_, .through, .ending⟩
  | opened => exact ⟨_, .stopped _, .ending⟩

theorem Closing.mem_cases {n : Nat} {failure : Option RunError} {ending : Trace}
    (h : Closing (lastReport n) failure ending) {x : Entry} (hx : x ∈ ending) :
    (∃ m, x = .log (.info m)) ∨ (∃ m, x = .log (.warn m)) ∨
      ∃ t v es, x = .call (.control .rollback) t v es := by
  cases h with
  | through => exact .inl ⟨_, List.mem_singleton.mp hx⟩
  | stopped => cases hx
  | rolledBack _ t v es =>
    rcases List.mem_cons.mp hx with rfl | hx
    · exact .inr (.inl ⟨_, rfl⟩)
    · exact .inr (.inr ⟨t, v, es, List.mem_singleton.mp hx⟩)

theorem diagnosticEntry_isDetail {level : Nat} {v : Verdict} {x : Entry}
    (h : x ∈ diagnosticEntry level v) : ∃ least m, x = .log (.detail least m) := by
  obtain ⟨d, -, rfl⟩ := List.mem_map.mp h
  exact ⟨_, _, rfl⟩

/-- What a run announces are directives that its text stands for. -/
theorem exists_announcement_of_mem_run {b : Backend σ} {fs : FileSystem} {columns : Nat}
    {text : Text} {s : State σ} {m : Text} {source : Option Path}
    (h : .log (.directive m source) ∈ (run b fs columns text s).trace) :
    ∃ d, Occurs fs text d ∧ .directive m source = announcement columns d := by
  obtain ⟨ending, closing, record⟩ := recorded_run diagnosticLevel b fs columns text s
  rcases record.mem_cases (List.mem_filter.mpr ⟨h, rfl⟩) with
    hlast | ⟨e, he, aside⟩ | ⟨d, occurs, he | ⟨t, v, es, he | hdetail⟩⟩
  · rcases closing.mem_cases hlast with ⟨_, he⟩ | ⟨_, he⟩ | ⟨_, _, _, he⟩ <;> cases he
  · cases he
    cases aside
  · exact ⟨d, occurs, Entry.log.inj he⟩
  · cases he
  · obtain ⟨_, _, he⟩ := diagnosticEntry_isDetail hdetail
    cases he

/-- The calls of a run other than rollbacks are those for directives that its text stands for. -/
theorem exists_callFor_of_mem_run {b : Backend σ} {fs : FileSystem} {columns : Nat} {text : Text}
    {s : State σ} {c : Call} {t : Transaction} {v : Verdict} {es : List Emission}
    (h : .call c t v es ∈ (run b fs columns text s).trace) (other : c ≠ .control .rollback) :
    ∃ d, Occurs fs text d ∧ c = callFor d := by
  obtain ⟨ending, closing, record⟩ := recorded_run diagnosticLevel b fs columns text s
  rcases record.mem_cases (List.mem_filter.mpr ⟨h, rfl⟩) with
    hlast | ⟨e, he, -⟩ | ⟨d, occurs, he | ⟨t, v, es, he | hdetail⟩⟩
  · rcases closing.mem_cases hlast with ⟨_, he⟩ | ⟨_, he⟩ | ⟨_, _, _, he⟩
    · cases he
    · cases he
    · exact absurd (Entry.call.inj he).1 other
  · cases he
  · cases he
  · exact ⟨d, occurs, (Entry.call.inj he).1⟩
  · obtain ⟨_, _, he⟩ := diagnosticEntry_isDetail hdetail
    cases he

theorem Closing.allPlaced {level columns : Nat} {Q : Directive → Prop} {n : Nat}
    {failure : Option RunError} {before ending : Trace} (h : Closing (lastReport n) failure ending)
    (calm : ∀ m, .log (.warn m) ∉ before) : AllPlaced level columns Q before ending := by
  cases h with
  | through => exact .cons (.log nofun) .nil
  | stopped => exact .nil
  | rolledBack _ t v es =>
    exact .cons (.log nofun) (.cons (.rollback t v es calm) .nil)

theorem Closing.details_untilCall {n : Nat} {failure : Option RunError} {ending : Trace}
    (h : Closing (lastReport n) failure ending) :
    (untilCall ending).filterMap Entry.detail? = [] := by
  cases h <;> rfl

/-- The record of every run, at every debug level and for terminals of every width, is an audit
trail. -/
theorem auditTrail_run (b : Backend σ) (fs : FileSystem) (level columns : Nat) (text : Text)
    (s : State σ) : AuditTrail level columns fs text (run b fs columns text s) := by
  obtain ⟨ending, closing, record⟩ := recorded_run level b fs columns text s
  have placed : AllPlaced level columns (Occurs fs text) []
      (recorded level (run b fs columns text s).trace) :=
    record.allPlaced closing.details_untilCall (fun _ calm => closing.allPlaced calm)
      fun m h => by cases h
  obtain ⟨earlier, split, infos⟩ := record.infos
  refine ⟨placed, fun before c t v es after split hc => placed.once split hc, ?_, ?_⟩
  · intro succeeded
    rw [succeeded] at closing
    cases closing
    exact ⟨earlier, split, infos⟩
  · intro failed m
    rw [split, List.mem_append, not_or]
    refine ⟨infos m, ?_⟩
    cases hf : (run b fs columns text s).failure with
    | none => exact absurd hf failed
    | some e =>
      rw [hf] at closing
      cases closing <;> simp

end Engine

end Runbook
