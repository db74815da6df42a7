import Mathlib.Data.List.Lex
import Mathlib.Order.Lattice
import Runbook.Path

/-! # The order of paths

Components are ordered in a line, names by their bytes, and paths word by word. Joining a directory
with the name of an entry adds one component.
-/
namespace Runbook

open Text (Bytes)

namespace Path

namespace Component

/-- Components as numbers, compared from the first on. -/
def key : Component → List Nat
  | .root => [0]
  | .current => [1]
  | .parent => [2]
  | .name b => 3 :: b.map UInt8.toNat

theorem toNat_map_injective : Function.Injective (List.map UInt8.toNat) :=
  List.map_injective_iff.mpr fun _ _ => UInt8.toNat_inj.mp

theorem key_injective : Function.Injective key := by
  intro a b h
  cases a with
  | root | current | parent => cases b <;> simp [key] at h ⊢
  | name s =>
    cases b with
    | root | current | parent => simp [key] at h
    | name t =>
      have hst : s = t := toNat_map_injective (List.cons.inj h).2
      rw [hst]

instance : LinearOrder Component := LinearOrder.lift' key key_injective

theorem lt_def (a b : Component) : a < b ↔ a.key < b.key := Iff.rfl

theorem name_lt_name {s t : Bytes} :
    name s < name t ↔ s.map UInt8.toNat < t.map UInt8.toNat := by
  simp [lt_def, key]

end Component

theorem bytesLe_iff (s t : Bytes) :
    bytesLe s t = true ↔ ¬ t.map UInt8.toNat < s.map UInt8.toNat := by
  induction s generalizing t with
  | nil => simp [bytesLe]
  | cons a s ih =>
    cases t with
    | nil => simp [bytesLe]
    | cons b t =>
      rw [bytesLe, List.map_cons, List.map_cons, List.cons_lt_cons_iff]
      by_cases hab : a = b
      · simp [hab, ih]
      · have hne : a.toNat ≠ b.toNat := fun h => hab (UInt8.toNat_inj.mp h)
        simp only [hab, if_false, decide_eq_true_eq, UInt8.lt_iff_toNat_lt]
        omega

theorem Component.le_iff (a b : Component) : a.le b = true ↔ ¬ b < a := by
  rw [Component.lt_def]
  cases a <;> cases b <;>
    simp [Component.le, Component.key, Component.rank, List.cons_lt_cons_iff, bytesLe_iff]

theorem componentsLe_iff (p q : List Component) : componentsLe p q = true ↔ ¬ q < p := by
  induction p generalizing q with
  | nil => simp [componentsLe]
  | cons a p ih =>
    cases q with
    | nil => simp [componentsLe]
    | cons b q =>
      rw [componentsLe, List.cons_lt_cons_iff]
      by_cases hab : a = b
      · simp [hab, ih]
      · simp [hab, Component.le_iff, Ne.symm hab]

theorem le_iff (p q : Path) : p.le q = true ↔ p.components ≤ q.components := by
  rw [le, componentsLe_iff, not_lt]

/-! ## Entries of directories -/

structure IsEntryName (n : Bytes) : Prop where
  nonempty : n ≠ []
  plain : slash ∉ n
  notCurrent : n ≠ [dot]
  notParent : n ≠ [dot, dot]

instance (n : Bytes) : Decidable (IsEntryName n) :=
  decidable_of_iff (n ≠ [] ∧ slash ∉ n ∧ n ≠ [dot] ∧ n ≠ [dot, dot])
    ⟨fun ⟨a, b, c, d⟩ => ⟨a, b, c, d⟩, fun h => ⟨h.1, h.2, h.3, h.4⟩⟩

theorem segments_ne_nil (b : Bytes) : segments b ≠ [] := by
  cases b with
  | nil => simp [segments]
  | cons a r =>
    rw [segments]
    split
    · simp
    · split <;> simp

theorem segments_append (a b : Bytes) : segments (a ++ slash :: b) = segments a ++ segments b := by
  induction a with
  | nil => simp [segments]
  | cons c a ih =>
    rw [List.cons_append, segments, segments, ih]
    split
    · rfl
    · obtain ⟨s, rest, hs⟩ := List.exists_cons_of_ne_nil (segments_ne_nil a)
      simp [hs]

theorem segments_of_plain {b : Bytes} (h : slash ∉ b) : segments b = [b] := by
  induction b with
  | nil => rfl
  | cons c b ih =>
    obtain ⟨hc, hb⟩ := not_or.mp (mt List.mem_cons.mpr h)
    rw [segments, if_neg (Ne.symm hc), ih hb]

namespace IsEntryName

variable {n : Bytes} (h : IsEntryName n)

include h

theorem component?_eq : component? n = some (.name n) := by
  rw [component?, if_neg (not_or.mpr ⟨h.nonempty, h.notCurrent⟩), if_neg h.notParent]

theorem components_self : components ⟨n⟩ = [.name n] := by
  obtain ⟨c, r, hn⟩ := List.exists_cons_of_ne_nil h.nonempty
  have hseg : segments n = [n] := segments_of_plain h.plain
  have hc : c ≠ slash := by
    rintro rfl
    exact h.plain (hn ▸ List.mem_cons_self)
  have hdot : ¬ (c = dot ∧ r = []) := by
    rintro ⟨rfl, rfl⟩
    exact h.notCurrent hn
  subst hn
  simp [components, hseg, hc, hdot, h.component?_eq]

end IsEntryName

theorem components_append_slash {x : Bytes} (hx : x ≠ []) (b : Bytes) :
    components ⟨x ++ slash :: b⟩ = components ⟨x⟩ ++ (segments b).filterMap component? := by
  obtain ⟨c, t, rfl⟩ := List.exists_cons_of_ne_nil hx
  have hseg := segments_append (c :: t) b
  have hhead : (segments (c :: t) ++ segments b).head? = (segments (c :: t)).head? :=
    List.head?_append_of_ne_nil _ (segments_ne_nil _)
  rw [List.cons_append] at hseg ⊢
  simp only [components, hseg, hhead, List.filterMap_append, List.append_assoc]

theorem components_trailing_slash {x : Bytes} (hx : x ≠ []) :
    components ⟨x ++ [slash]⟩ = components ⟨x⟩ := by
  have h : (segments []).filterMap component? = [] := rfl
  rw [components_append_slash hx, h, List.append_nil]

/-- Joining adds one component. -/
theorem components_join (d : Path) {n : Bytes} (h : IsEntryName n) :
    (d.join n).components = d.components ++ [.name n] := by
  have hn : (segments n).filterMap component? = [.name n] := by
    rw [segments_of_plain h.plain, List.filterMap_cons_some h.component?_eq, List.filterMap_nil]
  obtain ⟨b⟩ := d
  rcases List.eq_nil_or_concat b with rfl | ⟨x, c, rfl⟩
  · exact h.components_self
  · rw [join, List.concat_eq_append, List.getLast?_concat]
    simp only []
    split
    · rename_i hc
      subst hc
      rw [List.append_assoc, List.singleton_append]
      by_cases hx : x = []
      · subst hx
        have hroot : components ⟨slash :: n⟩ = .root :: (segments n).filterMap component? := by
          simp [components, segments, component?]
        rw [List.nil_append, hroot, hn]
        rfl
      · rw [components_append_slash hx, components_trailing_slash hx, hn]
    · rw [components_append_slash (by simp), hn]

end Path
end Runbook
