import Mathlib.Data.Char
import Mathlib.Data.List.Lex
import Runbook.Proofs.JsonRoundTrip

/-! # Members of objects

Members stay in the order of their names when one is added or replaced, and so the members of every
object that is read are in order: each name stands there once.
-/
namespace Runbook.Json

theorem nameLt_iff {s t : Text} : nameLt s t = true ↔ s < t := by
  induction s generalizing t with
  | nil => cases t <;> simp [nameLt]
  | cons a s ih =>
    cases t with
    | nil => simp [nameLt]
    | cons b t =>
      rw [nameLt, List.cons_lt_cons_iff]
      by_cases hab : a = b
      · simp [hab, ih]
      · have hlt : a.toNat < b.toNat ↔ a < b := UInt32.lt_iff_toNat_lt.symm
        rw [if_neg hab, decide_eq_true_eq, hlt]
        simp [hab]

theorem nameLt_trans {s t u : Text} (h : nameLt s t = true) (h' : nameLt t u = true) :
    nameLt s u = true := by
  rw [nameLt_iff] at h h' ⊢
  exact h.trans h'

theorem nameLt_of_not {s t : Text} (hne : s ≠ t) (h : ¬ nameLt t s = true) :
    nameLt s t = true := by
  rw [nameLt_iff] at h ⊢
  exact lt_of_le_of_ne (not_lt.mp h) hne

namespace Members

variable {m m' : Members} {name : Text} {v : Json}

theorem mem_insert {p : Text × Json} (h : p ∈ m.insert name v) : p = (name, v) ∨ p ∈ m := by
  induction m with
  | nil => exact .inl (List.mem_singleton.mp h)
  | cons q rest ih =>
    obtain ⟨n, w⟩ := q
    rw [insert] at h
    split at h
    · rcases List.mem_cons.mp h with rfl | h
      · exact .inl rfl
      · exact .inr (List.mem_cons_of_mem _ h)
    · split at h
      · exact List.mem_cons.mp h
      · rcases List.mem_cons.mp h with rfl | h
        · exact .inr List.mem_cons_self
        · exact (ih h).imp id (List.mem_cons_of_mem _)

theorem ordered_insert (h : Ordered m) (name : Text) (v : Json) : Ordered (m.insert name v) := by
  induction m with
  | nil => exact List.pairwise_singleton _ _
  | cons q rest ih =>
    obtain ⟨n, w⟩ := q
    obtain ⟨hfirst, hrest⟩ := List.pairwise_cons.mp h
    rw [insert]
    by_cases hn : n = name
    · subst hn
      rw [if_pos rfl]
      exact List.pairwise_cons.mpr ⟨hfirst, hrest⟩
    · rw [if_neg hn]
      by_cases hlt : nameLt name n = true
      · rw [if_pos hlt]
        refine List.pairwise_cons.mpr ⟨?_, h⟩
        intro p hp
        rcases List.mem_cons.mp hp with rfl | hp
        · exact hlt
        · exact nameLt_trans hlt (hfirst p hp)
      · rw [if_neg hlt]
        refine List.pairwise_cons.mpr ⟨?_, ih hrest⟩
        intro p hp
        rcases mem_insert hp with rfl | hp
        · exact nameLt_of_not hn hlt
        · exact hfirst p hp

theorem ordered_insertIfAbsent (h : Ordered m) (name : Text) (v : Json) :
    Ordered (m.insertIfAbsent name v) := by
  rw [insertIfAbsent]
  split
  · exact h
  · exact ordered_insert h name v

/-- A member that is there already keeps its value. -/
theorem get?_insertIfAbsent (name other : Text) (v : Json) (m : Members) :
    get? other (m.insertIfAbsent name v) =
      if name = other then some ((m.get? name).getD v) else get? other m := by
  rw [insertIfAbsent]
  cases hname : get? name m with
  | none => exact get?_insert name other v m
  | some w =>
    by_cases ho : name = other
    · subst ho
      simp [hname]
    · simp [ho]

theorem get?_eq_none_of_forall_nameLt (h : ∀ p ∈ m, nameLt name p.1 = true) :
    m.get? name = none := by
  induction m with
  | nil => rfl
  | cons p m ih =>
    obtain ⟨other, v⟩ := p
    obtain ⟨hother, hrest⟩ := List.forall_mem_cons.mp h
    have hne : other ≠ name := by
      rintro rfl
      rw [nameLt_irrefl] at hother
      cases hother
    rw [get?, if_neg hne, ih hrest]

theorem get?_cons_self (name : Text) (v : Json) (m : Members) :
    get? name ((name, v) :: m) = some v := if_pos rfl

/-- Members in order are known by the values of their names. -/
theorem ext_get? (ordered : Ordered m) (ordered' : Ordered m')
    (same : ∀ name, m.get? name = m'.get? name) : m = m' := by
  induction m generalizing m' with
  | nil =>
    cases m' with
    | nil => rfl
    | cons p m' =>
      have hp := same p.1
      rw [get?_cons_self] at hp
      cases hp
  | cons p m ih =>
    obtain ⟨n, v⟩ := p
    obtain ⟨hfirst, hrest⟩ := List.pairwise_cons.mp ordered
    cases m' with
    | nil =>
      have hp := same n
      rw [get?_cons_self] at hp
      cases hp
    | cons q m' =>
      obtain ⟨n', v'⟩ := q
      obtain ⟨hfirst', hrest'⟩ := List.pairwise_cons.mp ordered'
      -- The first names are the same, or the lesser one would be missing on the other side.
      have hname : n = n' := by
        by_contra hne
        by_cases hlt : nameLt n n' = true
        · have hnone : get? n ((n', v') :: m') = none :=
            get?_eq_none_of_forall_nameLt (List.forall_mem_cons.mpr
              ⟨hlt, fun p hp => nameLt_trans hlt (hfirst' p hp)⟩)
          rw [← same n, get?_cons_self] at hnone
          cases hnone
        · have hlt' : nameLt n' n = true := nameLt_of_not (Ne.symm hne) hlt
          have hnone : get? n' ((n, v) :: m) = none :=
            get?_eq_none_of_forall_nameLt (List.forall_mem_cons.mpr
              ⟨hlt', fun p hp => nameLt_trans hlt' (hfirst p hp)⟩)
          rw [same n', get?_cons_self] at hnone
          cases hnone
      subst hname
      have hvalue : v = v' := by
        have hn := same n
        rw [get?_cons_self, get?_cons_self] at hn
        exact Option.some.inj hn
      subst hvalue
      have htail : ∀ name, get? name m = get? name m' := by
        intro name
        by_cases hn : n = name
        · subst hn
          rw [get?_eq_none_of_forall_nameLt hfirst, get?_eq_none_of_forall_nameLt hfirst']
        · have h := same name
          rwa [get?, get?, if_neg hn, if_neg hn] at h
      rw [ih hrest hrest' htail]

def insertAll (m : Members) (pairs : List (Text × Json)) : Members :=
  pairs.foldl (fun m p => m.insert p.1 p.2) m

theorem ordered_insertAll (h : Ordered m) (pairs : List (Text × Json)) :
    Ordered (m.insertAll pairs) := by
  induction pairs generalizing m with
  | nil => exact h
  | cons p pairs ih => exact ih (ordered_insert h p.1 p.2)

/-- The last pair with a name gives its value. -/
theorem get?_insertAll (name : Text) (m : Members) (pairs : List (Text × Json)) :
    (m.insertAll pairs).get? name = (pairs.reverse.lookup name).or (m.get? name) := by
  induction pairs generalizing m with
  | nil => rfl
  | cons p pairs ih =>
    obtain ⟨n, v⟩ := p
    have hstep : m.insertAll ((n, v) :: pairs) = (m.insert n v).insertAll pairs := rfl
    rw [hstep, ih, get?_insert, List.reverse_cons, List.lookup_append, Option.or_assoc]
    by_cases hn : n = name
    · subst hn
      simp
    · have hne : (name == n) = false := beq_eq_false_iff_ne.mpr (Ne.symm hn)
      simp [List.lookup_cons, hn, hne]

theorem get?_append (name : Text) (m m' : Members) :
    get? name (m ++ m') = (m.get? name).or (m'.get? name) := by
  induction m with
  | nil => rfl
  | cons p m ih =>
    obtain ⟨n, x⟩ := p
    rw [List.cons_append, get?, get?, ih]
    split <;> rfl

/-- A member that is added or replaced stands where it is whatever its value. -/
theorem exists_insert_eq (name : Text) (m : Members) :
    ∃ before after : Members, before.get? name = none ∧
      ∀ x, m.insert name x = before ++ (name, x) :: after := by
  induction m with
  | nil => exact ⟨[], [], rfl, fun x => rfl⟩
  | cons p m ih =>
    obtain ⟨n, y⟩ := p
    by_cases hn : n = name
    · exact ⟨[], m, rfl, fun x => by rw [insert, if_pos hn]; rfl⟩
    · by_cases hlt : nameLt name n = true
      · exact ⟨[], (n, y) :: m, rfl, fun x => by rw [insert, if_neg hn, if_pos hlt]; rfl⟩
      · obtain ⟨before, after, fresh, h⟩ := ih
        refine ⟨(n, y) :: before, after, ?_, fun x => ?_⟩
        · rw [get?, if_neg hn, fresh]
        · rw [insert, if_neg hn, if_neg hlt, h]
          rfl

theorem insert_ne_nil (m : Members) (name : Text) (v : Json) : m.insert name v ≠ [] := by
  obtain ⟨before, after, -, h⟩ := exists_insert_eq name m
  rw [h]
  exact List.append_ne_nil_of_right_ne_nil _ (List.cons_ne_nil _ _)

theorem insertAll_ne_nil (h : m ≠ []) (pairs : List (Text × Json)) : m.insertAll pairs ≠ [] := by
  induction pairs generalizing m with
  | nil => exact h
  | cons p pairs ih => exact ih (insert_ne_nil m p.1 p.2)

end Members

/-! ## Objects that are read -/

section Reading

variable {negative : Bool} {significand dropped fuel depth : Nat} {e : Int} {t rest : Text} {v : Json}

theorem readReal_number (h : readReal negative significand e t = .ok (v, rest)) :
    ∃ n, v = .number n := by
  rw [readReal, real?] at h
  split at h
  · rename_i w hw
    obtain ⟨rfl, -⟩ := Prod.mk.inj (Except.ok.inj h)
    split at hw
    · cases hw
    · obtain ⟨x, -, hx⟩ := Option.map_eq_some_iff.mp hw
      exact ⟨_, hx.symm⟩
  · cases h

theorem readExponentDigits_number {down : Bool}
    (h : readExponentDigits negative significand e down t = .ok (v, rest)) :
    ∃ n, v = .number n := by
  rw [readExponentDigits.eq_def] at h
  split at h
  · cases h
  · split at h
    · cases h
    · simp only at h
      split at h
      · exact readReal_number h
      · split at h
        · cases h
        · obtain ⟨rfl, -⟩ := Prod.mk.inj (Except.ok.inj h)
          exact ⟨_, rfl⟩

theorem readExponent_number (h : readExponent negative significand e t = .ok (v, rest)) :
    ∃ n, v = .number n := readExponentDigits_number h

theorem readFraction_number (h : readFraction negative significand e t = .ok (v, rest)) :
    ∃ n, v = .number n := by
  rw [readFraction] at h
  simp only at h
  split at h
  · split at h <;> cases h
  · split at h
    · exact readExponent_number h
    · exact readExponent_number h
    · exact readReal_number h

theorem readWhole_number (h : readWhole negative significand dropped t = .ok (v, rest)) :
    ∃ n, v = .number n := by
  rw [readWhole] at h
  split at h
  · exact readReal_number h
  · split at h
    · obtain ⟨rfl, -⟩ := Prod.mk.inj (Except.ok.inj h)
      exact ⟨_, rfl⟩
    · split at h
      · exact readReal_number h
      · obtain ⟨rfl, -⟩ := Prod.mk.inj (Except.ok.inj h)
        exact ⟨_, rfl⟩

theorem readTail_number (h : readTail negative significand dropped t = .ok (v, rest)) :
    ∃ n, v = .number n := by
  rw [readTail.eq_def] at h
  split at h
  · exact readFraction_number h
  · exact readExponent_number h
  · exact readExponent_number h
  · exact readWhole_number h

theorem readNumber_number (h : readNumber negative t = .ok (v, rest)) : ∃ n, v = .number n := by
  rw [readNumber.eq_def] at h
  split at h
  · cases h
  · split at h
    · split at h
      · cases h
      · exact readTail_number h
    · exact readTail_number h
  · split at h
    · cases h
    · exact readTail_number h

theorem readItems_array {first : Bool} {done : List Json}
    (h : readItems fuel depth first done t = .ok (v, rest)) : ∃ items, v = .array items := by
  induction fuel generalizing first done t with
  | zero => cases h
  | succ fuel ih =>
    rw [readItems] at h
    simp only at h
    split at h
    · cases h
    · obtain ⟨rfl, -⟩ := Prod.mk.inj (Except.ok.inj h)
      exact ⟨_, rfl⟩
    · split at h
      · split at h
        · exact ih h
        · cases h
      · split at h
        · split at h
          · cases h
          · cases h
          · split at h
            · exact ih h
            · cases h
        · cases h

theorem readMembers_ordered {first : Bool} {done : Members} (ordered : Ordered done)
    (h : readMembers fuel depth first done t = .ok (v, rest)) :
    ∃ m, v = .object m ∧ Ordered m := by
  induction fuel generalizing first done t with
  | zero => cases h
  | succ fuel ih =>
    unfold readMembers at h
    extract_lets member at h
    -- A member is read in two places, and in both the others follow.
    have hmember : ∀ u, member u = .ok (v, rest) → ∃ m, v = .object m ∧ Ordered m := by
      intro u hu
      simp only [member] at hu
      split at hu
      · cases hu
      · split at hu
        · cases hu
        · split at hu
          · exact ih (Members.ordered_insert ordered _ _) hu
          · cases hu
        · cases hu
    split at h
    · cases h
    · obtain ⟨rfl, -⟩ := Prod.mk.inj (Except.ok.inj h)
      exact ⟨done, rfl, ordered⟩
    · split at h
      · split at h
        · exact hmember _ h
        · cases h
      · split at h
        · split at h
          · cases h
          · exact hmember _ h
          · cases h
          · cases h
        · cases h

/-- The members of an object that is read are in order. -/
theorem ordered_of_parse {m : Members} (h : parse t = .ok (.object m)) : Ordered m := by
  rw [parse] at h
  split at h
  · cases h
  · rename_i v rest hread
    split at h
    · obtain rfl := Except.ok.inj h
      rw [readValue] at hread
      split at hread
      · cases hread
      · exact absurd (readWord_value hread) (by simp)
      · exact absurd (readWord_value hread) (by simp)
      · exact absurd (readWord_value hread) (by simp)
      · obtain ⟨n, hn⟩ := readNumber_number hread
        cases hn
      · split at hread <;> cases hread
      · split at hread
        · cases hread
        · obtain ⟨items, hitems⟩ := readItems_array hread
          cases hitems
      · split at hread
        · cases hread
        · obtain ⟨m', hm, ordered⟩ := readMembers_ordered List.Pairwise.nil hread
          obtain rfl := object.inj hm
          exact ordered
      · split at hread
        · obtain ⟨n, hn⟩ := readNumber_number hread
          cases hn
        · cases hread
    · cases h

end Reading

end Runbook.Json
