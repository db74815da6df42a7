import Runbook.Text.Basic

/-! # Clipped texts -/
namespace Runbook.Text

/-- At most `width` characters of a text, with three dots added when some were cut off. A width
of zero is no limit. -/
def clip (t : Text) (width : Nat) : Text :=
  if width = 0 ∨ t.length ≤ width then t else t.take width ++ "...".toList

theorem clip_zero (t : Text) : clip t 0 = t := by simp [clip]

end Runbook.Text
