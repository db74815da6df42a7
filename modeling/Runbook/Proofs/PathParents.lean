import Runbook.Proofs.PathOrder
import Runbook.Proofs.Utf8

/-! # Parents and names of paths

The path of an entry of a directory has the directory as its parent and ends in the name of the
entry, if the path of the directory ends in a component.
-/
namespace Runbook

open Text (Bytes)

namespace Path

/-- The path ends in a component, or is the root. -/
structure Tidy (d : Path) : Prop where
  nonempty : d.bytes ≠ []
  noSlash : d.bytes.getLast? = some slash → d.bytes = [slash]
  noDot : ¬ [slash, dot] <:+ d.bytes

variable {n : Bytes}

theorem IsEntryName.trimTail_reverse (h : IsEntryName n) (fuel : Nat) (more : Bytes) :
    trimTail fuel (n.reverse ++ more) = n.reverse ++ more := by
  cases fuel with
  | zero => rfl
  | succ fuel =>
    have hslash : slash ∉ n.reverse := fun hmem => h.plain (List.mem_reverse.mp hmem)
    cases hn : n.reverse with
    | nil => exact absurd (List.reverse_eq_nil_iff.mp hn) h.nonempty
    | cons b rest =>
      rw [hn, List.mem_cons, not_or] at hslash
      cases rest with
      | nil =>
        have hdot : b ≠ dot := by
          rintro rfl
          exact h.notCurrent (List.reverse_eq_iff.mp hn)
        simp [trimTail, Ne.symm hslash.1, hdot]
      | cons c rest =>
        rw [List.mem_cons, not_or] at hslash
        simp [trimTail, Ne.symm hslash.1, Ne.symm hslash.2.1]

theorem dropWhile_reverse_append (plain : slash ∉ n) (more : Bytes) :
    (n.reverse ++ more).dropWhile (· != slash) = more.dropWhile (· != slash) := by
  refine List.dropWhile_append_of_pos fun b hb => ?_
  have hne : b ≠ slash := fun h => plain (h ▸ List.mem_reverse.mp hb)
  simpa using hne

/-- Cutting off the name leaves what stands before it. -/
theorem parent?_of_bytes {p : Path} {kept before : Bytes} (h : IsEntryName n)
    (hkept : p.bytes.take p.anchor = kept) (hbody : p.bytes.drop p.anchor = before ++ n) :
    p.parent? = some ⟨kept ++ (trimTail (before.reverse.dropWhile (· != slash)).length
      (before.reverse.dropWhile (· != slash))).reverse⟩ := by
  have hbody' : (p.bytes.drop p.anchor).reverse = n.reverse ++ before.reverse := by
    rw [hbody, List.reverse_append]
  have hne : n.reverse ++ before.reverse ≠ [] := by simp [h.nonempty]
  simp only [parent?, hbody', hkept, h.trimTail_reverse, dropWhile_reverse_append h.plain]

theorem anchor_le (d : Path) : d.anchor ≤ 1 := by
  rw [anchor]
  split
  · exact Nat.zero_le 1
  · split
    · exact Nat.le_refl 1
    · split <;> decide

theorem anchor_append_slash {x : Bytes} (hx : x ≠ []) (b : Bytes) :
    anchor ⟨x ++ slash :: b⟩ = anchor ⟨x⟩ := by
  obtain ⟨c, t, rfl⟩ := List.exists_cons_of_ne_nil hx
  have hhead : (segments (c :: t ++ slash :: b)).head? = (segments (c :: t)).head? := by
    rw [segments_append]
    exact List.head?_append_of_ne_nil _ (segments_ne_nil _)
  rw [List.cons_append] at hhead ⊢
  simp only [anchor, hhead]

theorem join_of_getLast? {d : Path} (nonempty : d.bytes ≠ []) (h : d.bytes.getLast? ≠ some slash) :
    (d.join n).bytes = d.bytes ++ slash :: n := by
  obtain ⟨x, b, hd⟩ := (List.eq_nil_or_concat d.bytes).resolve_left nonempty
  rw [hd, List.concat_eq_append, List.getLast?_concat] at h
  have hb : b ≠ slash := fun hb => h (congrArg some hb)
  rw [join, hd, List.concat_eq_append, List.getLast?_concat]
  simp [hb]

theorem Tidy.drop_anchor_ne {d : Path} (tidy : d.Tidy) : d.bytes.drop d.anchor ≠ [dot] := by
  intro h
  have hsplit : d.bytes.take d.anchor ++ [dot] = d.bytes := by
    rw [← h, List.take_append_drop]
  obtain ⟨bytes⟩ := d
  rcases Nat.le_one_iff_eq_zero_or_eq_one.mp (anchor_le ⟨bytes⟩) with hzero | hone
  · rw [hzero, List.take_zero, List.nil_append] at hsplit
    obtain rfl : [dot] = bytes := hsplit
    cases hzero
  · rw [hone] at hsplit
    cases bytes with
    | nil => cases hsplit
    | cons y t =>
      obtain rfl : [dot] = t := (List.cons.inj hsplit).2
      have hy : y ≠ slash := by
        rintro rfl
        exact tidy.noDot ⟨[], rfl⟩
      simp [anchor, segments, hy, show dot ≠ slash by decide] at hone

/-- What follows the anchor of a tidy path has nothing at its end to leave out. -/
theorem Tidy.trimTail_reverse {d : Path} (tidy : d.Tidy) (h : d.bytes.getLast? ≠ some slash)
    (fuel : Nat) :
    trimTail fuel (d.bytes.drop d.anchor).reverse = (d.bytes.drop d.anchor).reverse := by
  cases fuel with
  | zero => rfl
  | succ fuel =>
    have hsplit : d.bytes.take d.anchor ++ d.bytes.drop d.anchor = d.bytes :=
      List.take_append_drop _ _
    cases hr : (d.bytes.drop d.anchor).reverse with
    | nil => rfl
    | cons b rest =>
      rw [List.reverse_eq_iff.mp hr, List.reverse_cons, ← List.append_assoc] at hsplit
      have hb : b ≠ slash := by
        rintro rfl
        exact h (by rw [← hsplit, List.getLast?_concat])
      cases rest with
      | nil =>
        have hdot : b ≠ dot := by
          rintro rfl
          exact tidy.drop_anchor_ne (List.reverse_eq_iff.mp hr)
        simp [trimTail, hb, hdot]
      | cons c rest =>
        by_cases hdot : b = dot ∧ c = slash
        · obtain ⟨rfl, rfl⟩ := hdot
          rw [List.reverse_cons, ← List.append_assoc, List.append_assoc _ [slash] [dot]] at hsplit
          exact absurd ⟨_, hsplit⟩ tidy.noDot
        · simp only [trimTail, if_neg hb]
          split
          · rename_i hb
            exact if_neg fun hc => hdot ⟨hb, hc⟩
          · rfl

theorem Tidy.parent?_join {d : Path} (tidy : d.Tidy) (h : IsEntryName n) :
    (d.join n).parent? = some d := by
  by_cases hroot : d.bytes.getLast? = some slash
  · obtain ⟨bytes⟩ := d
    obtain rfl : bytes = [slash] := tidy.noSlash hroot
    have hanchor : (join ⟨[slash]⟩ n).anchor = 1 := rfl
    exact @parent?_of_bytes _ _ _ [] h rfl rfl
  · have hbytes := join_of_getLast? (n := n) tidy.nonempty hroot
    have hanchor : (d.join n).anchor = d.anchor := by
      have happend := anchor_append_slash tidy.nonempty n
      rwa [← hbytes] at happend
    have hle : d.anchor ≤ d.bytes.length :=
      Nat.le_trans d.anchor_le (List.length_pos_iff.mpr tidy.nonempty)
    have hkept : (d.join n).bytes.take (d.join n).anchor = d.bytes.take d.anchor := by
      rw [hanchor, hbytes, List.take_append_of_le_length hle]
    have hbody : (d.join n).bytes.drop (d.join n).anchor = d.bytes.drop d.anchor ++ [slash] ++ n := by
      rw [hanchor, hbytes, List.drop_append_of_le_length hle]
      simp
    rw [parent?_of_bytes h hkept hbody]
    have hbefore : ((d.bytes.drop d.anchor ++ [slash]).reverse.dropWhile (· != slash)) =
        slash :: (d.bytes.drop d.anchor).reverse := by
      simp
    -- The slash before the name goes with it, and nothing else does.
    simp only [hbefore, List.length_cons, trimTail, if_true, tidy.trimTail_reverse hroot,
      List.reverse_reverse, List.take_append_drop]

theorem fileName?_join (d : Path) (h : IsEntryName n) : (d.join n).fileName? = some n := by
  rw [fileName?, components_join d h, List.getLast?_concat]

theorem IsEntryName.parent?_self (h : IsEntryName n) : parent? ⟨n⟩ = some ⟨[]⟩ := by
  have hanchor : anchor ⟨n⟩ = 0 := by
    have hsegments : segments n = [n] := segments_of_plain h.plain
    obtain ⟨c, r, rfl⟩ := List.exists_cons_of_ne_nil h.nonempty
    have hc : c ≠ slash := fun hc => h.plain (hc ▸ List.mem_cons_self)
    have hcurrent := h.notCurrent
    simp only [anchor, hsegments, if_neg hc, List.head?_cons, Option.some.injEq, if_neg hcurrent]
  have hparent := @parent?_of_bytes n ⟨n⟩ _ [] h rfl (by rw [hanchor]; rfl)
  rwa [hanchor] at hparent

theorem IsEntryName.fileName?_self (h : IsEntryName n) : fileName? ⟨n⟩ = some n := by
  rw [fileName?, h.components_self]
  rfl

end Path

end Runbook
