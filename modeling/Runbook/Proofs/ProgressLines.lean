import Runbook.Backend.Scripted
import Runbook.FileSystem.Virtual
import Runbook.Proofs.AuditTrail

/-! # Progress lines

A directive is announced by its description, or by the beginning of it with dots for the rest. The
announcement fits on a terminal of four columns or more. A narrower one leaves no width for the
description, which is taken for no limit, so that nothing is cut off there.
-/
namespace Runbook

namespace Text

/-- A text, or a beginning of it that is not all with dots in place of the rest. -/
inductive Abridges (t : Text) : Text → Prop
  | whole : Abridges t t
  | cut {kept : Text} (beginning : kept <+: t) (less : kept ≠ t) :
      Abridges t (kept ++ "...".toList)

theorem abridges_clip (t : Text) (width : Nat) : Abridges t (clip t width) := by
  rw [clip]
  split
  · exact .whole
  · rename_i h
    refine .cut (List.take_prefix width t) fun hall => h (.inr ?_)
    rw [← hall]
    exact List.length_take_le width t

theorem length_clip_le (t : Text) {width : Nat} (h : width ≠ 0) :
    (clip t width).length ≤ width + 3 := by
  rw [clip]
  split
  · rename_i hshort
    have hle : t.length ≤ width := hshort.resolve_left h
    omega
  · have htake : (t.take width).length ≤ width := List.length_take_le width t
    rw [List.length_append]
    exact Nat.add_le_add_right htake 3

end Text

/-- No description is as short as the narrowest terminals. -/
theorem Directive.lt_length_describe (d : Directive) : 3 < d.describe.length := by
  rw [describe]
  split
  · decide
  · decide
  · simp
  · split <;> simp

namespace Engine

variable {σ : Type}

theorem length_announcement_le_iff (columns : Nat) (d : Directive) :
    (announcement columns d).message.length ≤ columns ↔ 4 ≤ columns := by
  change (Text.clip d.describe (columns - 3)).length ≤ columns ↔ 4 ≤ columns
  constructor
  · intro fits
    by_contra narrow
    have hwidth : columns - 3 = 0 := by omega
    have hlength := d.lt_length_describe
    rw [hwidth, Text.clip_zero] at fits
    omega
  · intro wide
    have hwidth : columns - 3 ≠ 0 := by omega
    have hclip := Text.length_clip_le d.describe hwidth
    omega

/-- What is announced of a directive is its description or begins it, with dots for what is left
out, and has room on the terminal exactly when that has four columns. Nothing else is announced in
a run. -/
theorem announcement_fits_iff (b : Backend σ) (fs : FileSystem) (columns : Nat) (text : Text)
    (s : State σ) :
    (∀ d : Directive, ∃ m, announcement columns d = .directive m d.source ∧
      Text.Abridges d.describe m ∧ (m.length ≤ columns ↔ 4 ≤ columns)) ∧
    ∀ m source, .log (.directive m source) ∈ (run b fs columns text s).trace →
      ∃ d, Occurs fs text d ∧ .directive m source = announcement columns d :=
  ⟨fun d => ⟨_, rfl, Text.abridges_clip d.describe _, length_announcement_le_iff columns d⟩,
    fun _ _ => exists_announcement_of_mem_run⟩

/-- The narrowest terminal on which something is cut off. -/
theorem announcement_fits_iff_fourColumns :
    let p := run Backend.recorder Virtual.empty.fileSystem 4 "SQL: a".toList (.fresh ⟨[], []⟩)
    .log (.directive "R...".toList none) ∈ p.trace ∧
      ∃ d, Occurs Virtual.empty.fileSystem "SQL: a".toList d ∧
        .directive "R...".toList none = announcement 4 d := by
  intro p
  have announced : .log (.directive "R...".toList none) ∈ p.trace := .head _
  obtain ⟨-, all⟩ := announcement_fits_iff Backend.recorder Virtual.empty.fileSystem 4
    "SQL: a".toList (.fresh ⟨[], []⟩)
  exact ⟨announced, all _ _ announced⟩

/-- On three columns the whole description is announced. -/
theorem announcement_exceeds_threeColumns :
    let p := run Backend.recorder Virtual.empty.fileSystem 3 "SQL: SELECT 1".toList
      (.fresh ⟨[], []⟩)
    ∃ m, .log (.directive m none) ∈ p.trace ∧ m = "Running SQL: SELECT 1".toList ∧
      ¬ m.length ≤ 3 :=
  ⟨_, .head _, by decide, by decide⟩

end Engine

end Runbook
