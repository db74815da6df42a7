import Runbook.FileSystem.Virtual
import Runbook.Log.File
import Runbook.Proofs.AuditTrail
import Runbook.Proofs.Emissions
import Runbook.Proofs.EscapeSequences
import Runbook.Proofs.Utf8

/-! # Escapes in a log file

The message of an event is logged without its escape sequences, and neither the time of day nor the
mark has any. The path from which a directive comes is logged as it is: it is the one place through
which an escape gets into the lines of a log file.
-/
namespace Runbook

open Text (escape)

theorem Path.escape_mem_display_iff (p : Path) : escape ∈ p.display ↔ 0x1B ∈ p.bytes :=
  ⟨Text.mem_of_mem_decodeLossy (b := 0x1B) (by decide) (by decide),
    Text.mem_decodeLossy (b := 0x1B) (by decide)⟩

namespace LogFile

/-- A time of day, to the second; a minute can have one more than sixty. -/
structure TimeOfDay where
  hour : Fin 24
  minute : Fin 60
  second : Fin 61

def twoDigits (n : Nat) : Text := [Nat.digitChar (n / 10), Nat.digitChar (n % 10)]

def TimeOfDay.text (t : TimeOfDay) : Text :=
  twoDigits t.hour ++ ':' :: twoDigits t.minute ++ ':' :: twoDigits t.second

theorem escape_not_mem_twoDigits {n : Nat} (h : n < 100) : escape ∉ twoDigits n := by
  have hdigit (k : Nat) (hk : k < 10) : escape ≠ Nat.digitChar k := by
    intro heq
    have hk' : (Nat.digitChar k).isDigit = true := by
      rw [Nat.isDigit_digitChar]
      exact decide_eq_true hk
    rw [← heq] at hk'
    exact absurd hk' (by decide)
  have htens : n / 10 < 10 := by omega
  have hunits : n % 10 < 10 := Nat.mod_lt n (by decide)
  simp [twoDigits, hdigit _ htens, hdigit _ hunits]

theorem TimeOfDay.escape_not_mem_text (t : TimeOfDay) : escape ∉ t.text := by
  have hhour : escape ∉ twoDigits t.hour := escape_not_mem_twoDigits (by omega)
  have hminute : escape ∉ twoDigits t.minute := escape_not_mem_twoDigits (by omega)
  have hsecond : escape ∉ twoDigits t.second := escape_not_mem_twoDigits (by omega)
  have hcolon : escape ≠ ':' := by decide
  simp [text, hhour, hminute, hsecond, hcolon]

theorem escape_not_mem_mark (e : Event) : escape ∉ mark e := by
  cases e <;> exact of_decide_eq_true rfl

theorem escape_mem_origin_iff (e : Event) :
    escape ∈ origin e ↔ ∃ m source, e = .directive m (some source) ∧ 0x1B ∈ source.bytes := by
  constructor
  · intro h
    cases e with
    | directive m source =>
      cases source with
      | none => exact absurd h List.not_mem_nil
      | some source =>
        have hopen : escape ∉ "  (".toList := by decide
        have hclose : escape ∉ ")".toList := by decide
        simp only [origin, List.mem_append, hopen, hclose, false_or, or_false] at h
        exact ⟨m, source, rfl, source.escape_mem_display_iff.mp h⟩
    | stage | info | debug | warn | error | dryRun | detail => exact absurd h List.not_mem_nil
  · rintro ⟨m, source, rfl, h⟩
    have hdisplay := source.escape_mem_display_iff.mpr h
    exact List.mem_append_left _ (List.mem_append_right _ hdisplay)

theorem escape_mem_line (t : TimeOfDay) (e : Event) :
    escape ∈ line t.text e ↔ escape ∈ origin e := by
  have hopen : escape ≠ '[' := by decide
  have hclose : escape ∉ "] ".toList := by decide
  simp only [line, List.mem_append, List.mem_cons, hopen, t.escape_not_mem_text, hclose,
    escape_not_mem_mark, Text.escape_not_mem_stripEscapes, false_or]

/-- No line that names a path is left out at any level. -/
theorem escape_mem_lines (level : Nat) (t : TimeOfDay) (events : List Event) :
    escape ∈ lines level t.text events ↔ ∃ e ∈ events, escape ∈ origin e := by
  have hfeed : escape ∉ ['\n'] := by decide
  simp only [lines, List.mem_flatMap, List.mem_filter, List.mem_append, hfeed, or_false,
    escape_mem_line]
  constructor
  · rintro ⟨e, ⟨he, -⟩, h⟩
    exact ⟨e, he, h⟩
  · rintro ⟨e, he, h⟩
    obtain ⟨m, source, rfl, -⟩ := (escape_mem_origin_iff e).mp h
    exact ⟨.directive m (some source), ⟨he, rfl⟩, h⟩

/-- A line has an escape exactly when it tells where a directive comes from and that path has one,
and the lines of a log have one exactly when one of them has. -/
theorem escape_mem_lines_iff (t : TimeOfDay) :
    (∀ e : Event, escape ∈ line t.text e ↔
      ∃ m source, e = .directive m (some source) ∧ 0x1B ∈ source.bytes) ∧
    ∀ (level : Nat) (events : List Event), escape ∈ lines level t.text events ↔
      ∃ m source, .directive m (some source) ∈ events ∧ 0x1B ∈ source.bytes := by
  refine ⟨fun e => (escape_mem_line t e).trans (escape_mem_origin_iff e), fun level events => ?_⟩
  rw [escape_mem_lines]
  simp only [escape_mem_origin_iff]
  constructor
  · rintro ⟨e, he, m, source, rfl, h⟩
    exact ⟨m, source, he, h⟩
  · rintro ⟨m, source, he, h⟩
    exact ⟨_, he, m, source, rfl, h⟩

/-- A dry run on a file with a coloured name: the path is logged with its escape sequence. -/
theorem escape_mem_line_colouredName :
    let path := "a\x1b[31m.sql".toList
    let fs := (Virtual.empty.put (.ofText path) (.file (Text.encode "SELECT 1".toList))).fileSystem
    let p := Engine.run Backend.dryRun fs 80 ("FILE/SQL: ".toList ++ path) (.fresh 0)
    let e := Event.directive "Running SQL: SELECT 1".toList (some (.ofText path))
    let noon : TimeOfDay := ⟨12, 0, 0⟩
    e ∈ Engine.events p.trace ∧
      line noon.text e = "[12:00:00] --> Running SQL: SELECT 1  (a\x1b[31m.sql)".toList ∧
      escape ∈ line noon.text e :=
  ⟨by decide, by decide, by decide⟩

end LogFile

theorem Engine.mem_emissions_of_mem_events {t : Trace} {e : Event} (h : e ∈ events t) :
    .log e ∈ emissions t := by
  obtain ⟨emission, hemission, he⟩ := List.mem_filterMap.mp h
  cases emission with
  | log e' =>
    obtain rfl := Option.some.inj he
    exact hemission
  | received | statement | posted => cases he

/-- Over a backend that announces no directives itself, a run on files without an escape in their
paths leaves none in its log. -/
theorem Engine.exists_occurs_of_escape_mem_lines {σ : Type} {b : Backend σ} {fs : FileSystem}
    {columns : Nat} {text : Text} {s : State σ} {level : Nat} {t : LogFile.TimeOfDay}
    (quiet : ∀ c s m source, .log (.directive m source) ∉ (b.call c s).emissions)
    (h : escape ∈ LogFile.lines level t.text (events (run b fs columns text s).trace)) :
    ∃ d source, Occurs fs text d ∧ d.source = some source ∧ 0x1B ∈ source.bytes := by
  obtain ⟨e, he, horigin⟩ := (LogFile.escape_mem_lines level t _).mp h
  obtain ⟨m, source, rfl, hescape⟩ := (LogFile.escape_mem_origin_iff e).mp horigin
  -- The event is the run's own, since no call leaves one like it.
  have hannounced : .log (.directive m (some source)) ∈ (run b fs columns text s).trace := by
    have answered : FromBackend b (fun _ => True) (run b fs columns text s).trace :=
      .run (fun _ _ _ _ _ _ => trivial) trivial columns s
    obtain ⟨x, hx, hemission⟩ := List.mem_flatMap.mp (mem_emissions_of_mem_events he)
    cases answered x hx with
    | log e =>
      obtain rfl := Emission.log.inj (List.mem_singleton.mp hemission)
      exact hx
    | call made during s => exact absurd hemission (quiet _ s m source)
  obtain ⟨d, occurs, hd⟩ := exists_announcement_of_mem_run hannounced
  exact ⟨d, source, occurs, (Event.directive.inj hd).2.symm, hescape⟩

end Runbook
