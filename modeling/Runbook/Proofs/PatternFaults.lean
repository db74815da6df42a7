import Runbook.Pattern.Diagnosis
import Runbook.Proofs.BracketLocality
import Runbook.Proofs.GlobAnchors

/-! # Every refused pattern has a fault

The second reading of a pattern keeps pace with the first one. As long as it finds nothing, the
first one goes on too, and the parts are nested at least as deep as the expressions.
-/
namespace Runbook.Pattern

variable {α : Type}

theorem Except.bind_eq_ok {ε β : Type} {x : Except ε α} {f : α → Except ε β} {b : β}
    (h : x.bind f = .ok b) : ∃ a, x = .ok a ∧ f a = .ok b := by
  cases x with
  | error e => cases h
  | ok a => exact ⟨a, rfl, h⟩

/-! ## Depths -/

namespace Part

mutual

def depth : Part → Nat
  | .nested _ parts => depths parts + 1
  | _ => 0

def depths : List Part → Nat
  | [] => 0
  | p :: ps => max p.depth (depths ps)

end

theorem depths_le_iff {ps : List Part} {m : Nat} : depths ps ≤ m ↔ ∀ p ∈ ps, p.depth ≤ m := by
  induction ps with
  | nil => simp [depths]
  | cons p ps ih => simp [depths, ih]

theorem depths_reverse (ps : List Part) : depths ps.reverse = depths ps :=
  eq_of_forall_ge_iff fun m => by simp [depths_le_iff]

mutual

theorem tooDeep?_eq_none_iff {limit : Nat} : ∀ p : Part, p.tooDeep? limit = none ↔ p.depth ≤ limit
  | .flags _ => by simp [tooDeep?, depth]
  | .plain _ => by simp [tooDeep?, depth]
  | .nested span parts => by
    cases limit with
    | zero => simp [tooDeep?, depth]
    | succ limit => simp [tooDeep?, depth, firstTooDeep?_eq_none_iff parts]

theorem firstTooDeep?_eq_none_iff {limit : Nat} :
    ∀ ps : List Part, firstTooDeep? limit ps = none ↔ depths ps ≤ limit
  | [] => by simp [firstTooDeep?, depths]
  | p :: ps => by
    simp [firstTooDeep?, depths, tooDeep?_eq_none_iff p, firstTooDeep?_eq_none_iff ps]

end

/-- A part that is nested at least as deep as the other thing. -/
def Bounds (p : Part) (n : Nested α) : Prop := n.height ≤ p.depth

theorem Bounds.nested {p : Part} {n : Nested α} (h : p.Bounds n) (span : Span) (value : α) :
    (Part.nested span [p]).Bounds (⟨value, n.height + 1⟩ : Nested α) := by
  simp only [Bounds, depth, depths] at h ⊢
  omega

/-- How deep things one after the other are nested, which is one level more than each of several. -/
def heightOf : List (Nested α) → Nat
  | [] => 0
  | [n] => n.height
  | ns => (ns.map (·.height)).foldl max 0 + 1

theorem foldl_height_le {ps : List Part} {ns : List (Nested α)} (h : List.Forall₂ Bounds ps ns) :
    (ns.map (·.height)).foldl max 0 ≤ depths ps := by
  refine foldl_max_le_iff.mpr ⟨Nat.zero_le _, ?_⟩
  induction h with
  | nil => simp
  | cons bounds _ ih =>
    simp only [List.map_cons, List.forall_mem_cons, depths]
    exact ⟨bounds.trans (Nat.le_max_left _ _), fun x hx => (ih x hx).trans (Nat.le_max_right _ _)⟩

theorem heightOf_le_depth_sequence {start stop : Text} {ps : List Part} {ns : List (Nested α)}
    (h : List.Forall₂ Bounds ps ns) : heightOf ns ≤ (sequence start stop ps).depth := by
  match ps, ns, h with
  | [], [], _ => exact Nat.zero_le _
  | [p], [n], .cons bounds _ => exact bounds
  | p :: q :: ps, m :: n :: ns, h =>
    have hdepth : (sequence start stop (p :: q :: ps)).depth = depths (p :: q :: ps) + 1 :=
      congrArg (· + 1) (depths_reverse (p :: q :: ps))
    rw [hdepth]
    exact Nat.succ_le_succ (foldl_height_le h)

end Part

/-! ## Escapes and items -/

variable {start : Text} {s s' : Scan}

theorem readEscape_of_inspect {p : Primitive} {a : Atom}
    (h : inspectEscape start s = .ok (p, s')) (ha : p.atom = .ok a) :
    readEscape s = some (a, s') := by
  unfold inspectEscape at h
  split at h
  · rename_i a' t ht
    obtain ⟨rfl, rfl⟩ := Prod.mk.inj (Except.ok.inj h)
    rw [ht, Except.ok.inj ha]
  · cases h
  · rename_i c t _ _
    -- A class without a meaning is the only escape that is passed over although it is refused.
    split at h
    · cases hname : readClassName (s.onto t) with
      | error e => simp [hname, Except.map] at h
      | ok named =>
        simp only [hname, Except.map, Except.ok.injEq, Prod.mk.injEq] at h
        rw [← h.1] at ha
        cases ha
    · cases h

theorem Primitive.exists_of_fault?_eq_none {f : Flags} {p : Primitive} (h : p.fault? f = none) :
    ∃ a r, p.atom = .ok a ∧ atomRegex? f a = some r := by
  unfold Primitive.fault? at h
  split at h
  · cases h
  · rename_i a ha
    cases hr : atomRegex? f a with
    | none => simp [hr] at h
    | some r => exact ⟨a, r, ha, hr⟩

theorem readSetAtom_of_inspect {p : Primitive} {a : Atom} (left : s.rest ≠ [])
    (h : inspectSetAtom s = .ok (p, s')) (ha : p.atom = .ok a) :
    readSetAtom s = some (a, s') := by
  unfold inspectSetAtom at h
  split at h
  · rename_i t ht
    rw [readSetAtom, ht]
    exact readEscape_of_inspect h ha
  · rename_i t hne
    obtain ⟨rfl, rfl⟩ := Prod.mk.inj (Except.ok.inj h)
    obtain rfl := Except.ok.inj ha
    unfold readSetAtom
    split
    · rename_i hs
      exact absurd hs left
    · rename_i t ht
      exact absurd ht (hne t)
    · rename_i c t _ ht
      simp [ht]

theorem setCode?_eq_some {f : Flags} {c : Char} {n : Nat} (h : setCode? f c = some n) :
    n = c.toNat :=
  (Option.some.inj (Option.ite_none_right_eq_some.mp h).2).symm

theorem unfit?_eq_none_iff {f : Flags} {k : CharSet} {span : Span} :
    unfit? f k span = none ↔ f.admits k = true := by
  simp [unfit?]

theorem readSetItem_of_inspect {b : OpenSet} {p : Part} {k : CharSet} (left : s.rest ≠ [])
    (h : inspectItem b s = .ok (p, k, none, s')) : readSetItem s = some (k, s') := by
  obtain ⟨⟨first, s₁⟩, hfirst, h⟩ := Except.bind_eq_ok h
  have hatom {a : Atom} (ha : first.atom = .ok a) : readSetAtom s = some (a, s₁) :=
    readSetAtom_of_inspect left hfirst ha
  simp only at h
  split at h
  · cases h
  · rename_i c t ht
    split at h
    · -- A character or a class that no hyphen follows.
      rename_i alone
      split at h
      · rename_i d asByte ha
        split at h
        · rename_i n hn
          obtain ⟨-, rfl, -, rfl⟩ := Prod.mk.inj (Except.ok.inj h)
          rw [readSetItem, hatom ha]
          simp only [ht, if_pos alone, hn, Option.map_some]
        · cases h
      · rename_i k' ha
        obtain ⟨-, taken⟩ := Prod.mk.inj (Except.ok.inj h)
        obtain ⟨rfl, kept⟩ := Prod.mk.inj taken
        obtain ⟨fits, rfl⟩ := Prod.mk.inj kept
        rw [readSetItem, hatom ha]
        simp only [ht, if_pos alone, if_pos (unfit?_eq_none_iff.mp fits)]
      · cases h
      · cases h
    · rename_i together
      split at h
      · cases h
      · rename_i more
        obtain ⟨⟨last, s₂⟩, hlast, h⟩ := Except.bind_eq_ok h
        have hatom' {a : Atom} (ha : last.atom = .ok a) :
            readSetAtom ((s₁.onto s₁.rest).onto t) = some (a, s₂) :=
          readSetAtom_of_inspect (fun hnil => more (List.isEmpty_iff.mpr hnil)) hlast ha
        simp only at h
        split at h
        · rename_i low _ high _ hlow hhigh
          split at h
          · cases h
          · rename_i ascending
            split at h
            · rename_i l r hl hr
              obtain ⟨-, rfl, -, rfl⟩ := Prod.mk.inj (Except.ok.inj h)
              obtain rfl := setCode?_eq_some hl
              obtain rfl := setCode?_eq_some hr
              rw [readSetItem, hatom hlow]
              simp only [ht, if_neg together, hatom' hhigh, hl, hr,
                if_pos (Nat.le_of_not_lt ascending)]
            · cases h
            · cases h
        · cases h
        · cases h

/-! ## Brackets -/

theorem forall₂_hyphens {fuel : Nat} {parts : List Part} {items : List (Nested CharSet)}
    (h : List.Forall₂ Part.Bounds parts items) :
    List.Forall₂ Part.Bounds (hyphens fuel parts s) (readHyphens fuel items s).1 := by
  induction fuel generalizing parts items s with
  | zero => exact h
  | succ fuel ih =>
    cases hs : s.rest with
    | nil => simpa [hyphens, readHyphens, hs] using h
    | cons c t =>
      by_cases hc : c = '-'
      · subst hc
        have hyphen : (Part.plain ⟨'-' :: t, t⟩).Bounds (⟨.single '-'.toNat, 0⟩ : Nested CharSet) :=
          Nat.zero_le _
        simpa [hyphens, readHyphens, hs] using ih (s := s.onto t) (.cons hyphen h)
      · simpa [hyphens, readHyphens, hs, hc] using h

theorem height_gathered (b : Bracket) : b.gathered.height = Part.heightOf b.items := by
  obtain ⟨negated, left, items⟩ := b
  match items with
  | [] => rfl
  | [k] => rfl
  | k :: l :: ks => rfl

namespace OpenSet

/-- What is read of a bracket is nested as deep as its parts at most. -/
structure Agrees (b : OpenSet) : Prop where
  items : List.Forall₂ Part.Bounds b.items b.set.items
  left : ∀ op k, b.set.left = some (op, k) → ∃ p, b.left = some p ∧ p.Bounds k

theorem Agrees.add {b : OpenSet} (h : b.Agrees) {p : Part} {k : Nested CharSet}
    (bounds : p.Bounds k) : (b.add p k).Agrees :=
  ⟨.cons bounds h.items, h.left⟩

theorem Agrees.combined {b : OpenSet} (h : b.Agrees) (f : Flags) :
    b.combined.Bounds (b.set.combined f) := by
  have hright : b.set.gathered.height ≤ (Part.union b.place b.items).depth := by
    rw [height_gathered]
    exact Part.heightOf_le_depth_sequence h.items
  rw [Part.Bounds, OpenSet.combined, Bracket.combined]
  cases hset : b.set.left with
  | none =>
    cases b.left with
    | none => exact hright
    | some p =>
      simp only [Part.depth, Part.depths]
      omega
  | some waiting =>
    obtain ⟨op, k⟩ := waiting
    obtain ⟨p, hp, bounds⟩ := h.left op k hset
    rw [Part.Bounds] at bounds
    simp only [hp, Part.depth, Part.depths]
    omega

theorem Agrees.operate {b : OpenSet} (h : b.Agrees) (f : Flags) (op : SetOp) (place : Text) :
    (b.operate f op place).Agrees :=
  ⟨.nil, fun _ _ hleft => by
    obtain ⟨-, rfl⟩ := Prod.mk.inj (Option.some.inj hleft)
    exact ⟨_, rfl, h.combined f⟩⟩

theorem Agrees.closed {b : OpenSet} (h : b.Agrees) (f : Flags) (span : Span) :
    (Part.nested span [b.combined]).Bounds (b.set.closed f) :=
  (h.combined f).nested span _

end OpenSet

/-- The characters at the beginning of a bracket are hyphens or one closing bracket. -/
theorem openItems_items {negated : Bool} {b : Bracket} (h : openItems negated s = some (b, s')) :
    b.left = none ∧ (b.items = (readHyphens s.rest.length [] s).1 ∨
      (readHyphens s.rest.length [] s).1 = [] ∧ b.items = [⟨.single ']'.toNat, 0⟩]) := by
  rw [openItems] at h
  generalize readHyphens s.rest.length [] s = run at h ⊢
  obtain ⟨items, s₁⟩ := run
  simp only at h
  split at h
  · cases h
  · split at h
    · rename_i none
      obtain ⟨-, hb⟩ := Option.ite_none_left_eq_some.mp h
      obtain ⟨rfl, -⟩ := Prod.mk.inj (Option.some.inj hb)
      exact ⟨rfl, .inr ⟨List.isEmpty_iff.mp none, rfl⟩⟩
    · obtain ⟨rfl, -⟩ := Prod.mk.inj (Option.some.inj h)
      exact ⟨rfl, .inl rfl⟩
  · obtain ⟨rfl, -⟩ := Prod.mk.inj (Option.some.inj h)
    exact ⟨rfl, .inl rfl⟩

theorem negation_snd (s : Scan) : (negation s).2 = pastNegation s := by
  rw [negation, pastNegation]
  split <;> simp_all

theorem openBracket_of_inspect {b : OpenSet} (h : inspectOpening s = .ok (b, s')) :
    openBracket s s.rest.tail = some (b.set, s') ∧ b.Agrees := by
  rw [inspectOpening] at h
  simp only at h
  split at h
  · rename_i set s₁ hopen
    obtain ⟨rfl, rfl⟩ := Prod.mk.inj (Except.ok.inj h)
    have hread : openItems (negation (s.onto s.rest.tail)).1 (pastNegation (s.onto s.rest.tail)) =
        some (set, s₁) := by
      rw [← negation_snd]
      exact hopen
    obtain ⟨hleft, hitems⟩ := openItems_items hread
    refine ⟨hopen, ?_, fun op k hk => by cases hleft.symm.trans hk⟩
    generalize pastNegation (s.onto s.rest.tail) = inside at hitems
    have agree : List.Forall₂ Part.Bounds (hyphens inside.rest.length [] inside)
        (readHyphens inside.rest.length [] inside).1 := forall₂_hyphens .nil
    rcases hitems with hitems | ⟨none, hitems⟩
    · rw [← hitems] at agree
      simp only
      generalize hyphens inside.rest.length [] inside = parts at agree ⊢
      generalize set.items = items at agree ⊢
      cases agree with
      | nil => exact .nil
      | cons bounds rest => exact .cons bounds rest
    · rw [none, List.forall₂_nil_right_iff] at agree
      simp only [agree, hitems]
      exact .cons (Nat.zero_le _) .nil
  · cases h

/-- A bracket in which nothing is found is read, to the same set. -/
theorem readBracket_of_inspect {fuel : Nat} {outer : List OpenSet} {b : OpenSet}
    {late : Option Fault} {p : Part} {k : Nested CharSet}
    (h : inspectBracket fuel outer b late s = .ok (p, k, none, s'))
    (around : ∀ b ∈ outer, b.Agrees) (agrees : b.Agrees) :
    late = none ∧ readBracket fuel (outer.map (·.set)) b.set s = some (k, s') ∧ p.Bounds k := by
  -- By the rounds. All brackets that are open have to agree, since each of them becomes the inmost.
  induction fuel generalizing outer b late s with
  | zero => cases h
  | succ fuel ih =>
    rw [inspectBracket] at h
    simp only at h
    split at h
    case h_1 => cases h
    case h_2 t ht =>
      rw [readBracket_place _ _ _ rfl ht, if_pos rfl]
      cases hposix : readPosix? (s.onto s.rest) with
      | some named =>
        simp only [hposix] at h ⊢
        obtain ⟨found, read, bounds⟩ := ih h around (agrees.add (Nat.zero_le _))
        obtain ⟨hlate, fits⟩ := Option.or_eq_none_iff.mp found
        rw [if_pos (unfit?_eq_none_iff.mp fits)]
        exact ⟨hlate, read, bounds⟩
      | none =>
        simp only [hposix] at h ⊢
        obtain ⟨⟨inner, s₁⟩, hopen, h⟩ := Except.bind_eq_ok h
        obtain ⟨hread, hinner⟩ := openBracket_of_inspect hopen
        rw [ht, List.tail_cons] at hread
        simp only [hread]
        exact ih h (List.forall_mem_cons.mpr ⟨agrees, around⟩) hinner
    case h_3 t ht =>
      rw [readBracket_place _ _ _ rfl ht, if_neg (by decide), if_pos rfl]
      cases outer with
      | nil =>
        obtain ⟨rfl, taken⟩ := Prod.mk.inj (Except.ok.inj h)
        obtain ⟨rfl, kept⟩ := Prod.mk.inj taken
        obtain ⟨rfl, rfl⟩ := Prod.mk.inj kept
        exact ⟨rfl, rfl, agrees.closed _ _⟩
      | cons b' outer =>
        obtain ⟨hb', around⟩ := List.forall_mem_cons.mp around
        obtain ⟨found, read, bounds⟩ := ih h around (hb'.add (agrees.closed _ _))
        obtain ⟨hlate, fits⟩ := Option.or_eq_none_iff.mp found
        simp only [List.map_cons, if_pos (unfit?_eq_none_iff.mp fits)]
        exact ⟨hlate, read, bounds⟩
    case h_7 hempty hset hclose hinter hdiff hsymm =>
      cases hs : (s.onto s.rest).rest with
      | nil => exact absurd hs hempty
      | cons c u =>
        have hc : c ≠ '[' := fun hc => hset u (hs.trans (congrArg (· :: u) hc))
        have hc' : c ≠ ']' := fun hc => hclose u (hs.trans (congrArg (· :: u) hc))
        have hop : setOp? (c :: u) = none := hs ▸ setOp?_eq_none hinter hdiff hsymm
        rw [readBracket_place _ _ _ rfl hs, if_neg hc, if_neg hc', hop]
        obtain ⟨⟨part, c', fault, s₁⟩, hitem, h⟩ := Except.bind_eq_ok h
        obtain ⟨found, read, bounds⟩ := ih h around (agrees.add (Nat.zero_le _))
        obtain ⟨hlate, rfl⟩ := Option.or_eq_none_iff.mp found
        have left : (s.onto s.rest).rest ≠ [] := hempty
        simp only [readSetItem_of_inspect left hitem]
        exact ⟨hlate, read, bounds⟩
    all_goals
      rename_i t ht
      rw [readBracket_place _ _ _ rfl ht, if_neg (by decide), if_neg (by decide)]
      exact ih h around (agrees.operate _ _ _)

/-! ## Expressions -/

namespace Branches

theorem height_sequence (b : Branches) :
    b.sequence.height = Part.heightOf (b.pieces.map (·.regex)) := by
  obtain ⟨done, pieces⟩ := b
  match pieces with
  | [] => rfl
  | [p] => rfl
  | p :: q :: ps =>
    rw [sequence_eq (by simp)]
    simp [Part.heightOf, Function.comp_def]

theorem height_finish (b : Branches) : b.finish.height = Part.heightOf (b.sequence :: b.done) := by
  obtain ⟨done, pieces⟩ := b
  cases done <;> rfl

end Branches

/-- A part stands for a piece; flags cannot be repeated in either reading. -/
structure Part.Stands (p : Part) (q : Piece) : Prop where
  bounds : p.Bounds q.regex
  flags : q.isFlags = true → ∃ span, p = .flags span

/-- The alternatives of both readings, part by part. -/
structure Course.Agrees (c : Course) (b : Branches) : Prop where
  done : List.Forall₂ Part.Bounds c.done b.done
  pieces : List.Forall₂ Part.Stands c.pieces b.pieces

namespace Course.Agrees

variable {c : Course} {b : Branches}

theorem new (t : Text) : (Course.new t).Agrees .start := ⟨.nil, .nil⟩

theorem push (h : c.Agrees b) {p : Part} {r : Nested Regex} (bounds : p.Bounds r) :
    (c.push p).Agrees (b.push r) :=
  ⟨h.done, .cons ⟨bounds, fun hf => by cases hf⟩ h.pieces⟩

theorem pushFlags (h : c.Agrees b) (span : Span) : (c.push (.flags span)).Agrees b.pushFlags :=
  ⟨h.done, .cons ⟨Nat.zero_le _, fun _ => ⟨span, rfl⟩⟩ h.pieces⟩

theorem bounds_sequence (h : c.Agrees b) (stop : Text) :
    (Part.sequence c.begun stop c.pieces).Bounds b.sequence := by
  rw [Part.Bounds, Branches.height_sequence]
  refine Part.heightOf_le_depth_sequence (List.forall₂_map_right_iff.mpr ?_)
  exact h.pieces.imp fun _ _ stands => stands.bounds

theorem alternative (h : c.Agrees b) (stop next : Text) :
    (c.alternative stop next).Agrees b.alternative :=
  ⟨.cons (h.bounds_sequence stop) h.done, .nil⟩

theorem bounds_finish (h : c.Agrees b) (stop : Text) : (c.finish stop).Bounds b.finish := by
  rw [Part.Bounds, Branches.height_finish]
  exact Part.heightOf_le_depth_sequence (.cons (h.bounds_sequence stop) h.done)

end Course.Agrees

namespace Inspection

variable {i i' : Inspection}

theorem repeatLast_eq {t : Scan} (h : i.repeatLast t = .ok i') :
    ∃ p ps, i.course.pieces = p :: ps ∧ (∀ span, p ≠ .flags span) ∧
      i' = { i with
        course := { i.course with pieces := .nested ⟨p.span.start, t.rest⟩ [p] :: ps }
        scan := t } := by
  rw [repeatLast] at h
  split at h
  · cases h
  · cases h
  · rename_i p ps hflags hps
    exact ⟨p, ps, hps, fun span hp => hflags span hp, (Except.ok.inj h).symm⟩

theorem leave_eq {t : Text} (h : i.leave t = .ok i') :
    ∃ g groups, i.groups = g :: groups ∧
      i' = { i with
        groups := groups
        course := g.before.push (.nested ⟨g.group, t⟩ [i.course.finish i.scan.rest])
        scan := { i.scan with rest := t, flags := g.flags } } := by
  rw [leave] at h
  split at h
  · cases h
  · rename_i g groups hgroups
    exact ⟨g, groups, hgroups, (Except.ok.inj h).symm⟩

/-- A fault that was found is kept. -/
theorem late_of_step (h : i.step = .ok i') (found : i'.late = none) : i.late = none := by
  have added {p : Part} {fault : Option Fault} {t : Scan}
      (hi : (.ok (i.add p fault t) : Except Fault Inspection) = .ok i') : i.late = none := by
    obtain rfl := Except.ok.inj hi
    exact (Option.or_eq_none_iff.mp found).1
  have repeated {t : Scan} (hi : i.repeatLast t = .ok i') : i.late = none := by
    obtain ⟨p, ps, -, -, rfl⟩ := repeatLast_eq hi
    exact found
  unfold step at h
  simp only at h
  split at h
  case h_2 =>
    split at h
    · exact added h
    · obtain rfl := Except.ok.inj h
      exact found
    · cases h
  case h_3 =>
    obtain ⟨g, groups, -, rfl⟩ := leave_eq h
    exact found
  case h_5 =>
    obtain ⟨_, -, h⟩ := Except.bind_eq_ok h
    obtain ⟨_, -, h⟩ := Except.bind_eq_ok h
    exact added h
  case h_9 =>
    split at h
    · exact repeated h
    · obtain ⟨_, -, h⟩ := Except.bind_eq_ok h
      cases h
  case h_13 =>
    obtain ⟨_, -, h⟩ := Except.bind_eq_ok h
    exact added h
  case h_1 | h_4 =>
    obtain rfl := Except.ok.inj h
    exact found
  case h_6 | h_7 | h_8 => exact repeated h
  all_goals exact added h

theorem late_of_run {fuel : Nat} (h : i.run fuel = .ok i') (found : i'.late = none) :
    i.late = none := by
  induction fuel generalizing i with
  | zero => cases h
  | succ fuel ih =>
    rw [run] at h
    simp only at h
    split at h
    · obtain rfl := Except.ok.inj h
      exact found
    · obtain ⟨i₁, hstep, h⟩ := Except.bind_eq_ok h
      exact late_of_step (i := { i with scan := i.scan.onto i.scan.rest }) hstep (ih h)

end Inspection

/-- The second reading beside the first one, with the same groups open. -/
structure Inspection.Beside (i : Inspection) (r : Reading) : Prop where
  course : i.course.Agrees r.branches
  groups : List.Forall₂ (fun (g : Enclosure) (frame : Frame) =>
    g.before.Agrees frame.before ∧ g.flags = frame.flags) i.groups r.frames

namespace Inspection.Beside

variable {i i' : Inspection} {r : Reading}

theorem piece (h : i.Beside r) {n : Nested Regex} {p : Part} {fault : Option Fault} {t : Scan}
    (token : readToken r.scan = some (.piece n, t)) (bounds : p.Bounds n) :
    ∃ r', r.next? = some r' ∧ (i.add p fault t).scan = r'.scan ∧ (i.add p fault t).Beside r' :=
  ⟨_, Reading.next?_of_token token, rfl, h.course.push bounds, h.groups⟩

theorem repetition (h : i.Beside r) {least : Nat} {most : Option Nat} {t : Scan}
    (token : readToken r.scan = some (.repetition least most, t)) (hi : i.repeatLast t = .ok i') :
    ∃ r', r.next? = some r' ∧ i'.scan = r'.scan ∧ i'.Beside r' := by
  rw [Reading.next?_of_token token]
  obtain ⟨frames, ⟨alternatives, qs⟩, s⟩ := r
  obtain ⟨⟨done, pieces⟩, groups⟩ := h
  obtain ⟨p, ps, hps, hflags, rfl⟩ := repeatLast_eq hi
  rw [hps] at pieces
  cases pieces with
  | @cons _ q _ qs stands rest =>
    obtain ⟨regex, isFlags⟩ := q
    cases isFlags with
    | true =>
      obtain ⟨span, rfl⟩ := stands.flags rfl
      exact absurd rfl (hflags span)
    | false =>
      refine ⟨_, rfl, rfl, ⟨done, .cons ⟨?_, fun hf => by cases hf⟩ rest⟩, groups⟩
      exact stands.bounds.nested _ _

theorem closing (h : i.Beside r) {t : Text}
    (token : readToken r.scan = some (.closing, i.scan.move t)) (hi : i.leave t = .ok i') :
    ∃ r', r.next? = some r' ∧ i'.scan = r'.scan ∧ i'.Beside r' := by
  rw [Reading.next?_of_token token]
  obtain ⟨frames, b, s⟩ := r
  obtain ⟨course, groups⟩ := h
  obtain ⟨g, enclosing, hgroups, rfl⟩ := leave_eq hi
  rw [hgroups] at groups
  cases groups with
  | cons agrees rest =>
    obtain ⟨hbefore, hflags⟩ := agrees
    refine ⟨_, rfl, by rw [hflags]; rfl, hbefore.push ?_, rest⟩
    exact (course.bounds_finish _).nested _ _

/-- As long as no fault is found, the first reading takes a token where the second one makes a
step. -/
theorem step (h : i.Beside r) (place : i.scan = r.scan.onto r.scan.rest)
    (left : i.scan.rest ≠ []) (hi : i.step = .ok i') (found : i'.late = none) :
    ∃ r', r.next? = some r' ∧ i'.scan = r'.scan ∧ i'.Beside r' := by
  have hflags : i.scan.flags = r.scan.flags := place ▸ rfl
  have token {c : Char} {t : Text} (hs : i.scan.rest = c :: t) :
      readToken r.scan = tokenAt i.scan t c := by
    rw [readToken, ← place, hs]
  unfold Inspection.step at hi
  simp only at hi
  split at hi
  case h_1 hs => exact absurd hs left
  case h_2 t hs =>
    have token := token hs
    rw [tokenAt] at token
    split at hi
    case h_1 s' hopen =>
      obtain rfl := Except.ok.inj hi
      rw [hopen] at token
      exact ⟨_, Reading.next?_of_token token, rfl, h.course.pushFlags _, h.groups⟩
    case h_2 s' hopen =>
      obtain rfl := Except.ok.inj hi
      rw [hopen] at token
      exact ⟨_, Reading.next?_of_token token, rfl, .new _, .cons ⟨h.course, hflags⟩ h.groups⟩
    case h_3 => cases hi
  case h_3 t hs => exact h.closing (token hs) hi
  case h_4 t hs =>
    obtain rfl := Except.ok.inj hi
    exact ⟨_, Reading.next?_of_token (token hs), rfl, h.course.alternative _ _, h.groups⟩
  case h_5 t hs =>
    obtain ⟨⟨b, s₁⟩, hopen, hi⟩ := Except.bind_eq_ok hi
    obtain ⟨⟨part, set, late, s₂⟩, hbracket, hi⟩ := Except.bind_eq_ok hi
    obtain rfl := Except.ok.inj hi
    obtain ⟨-, hfault⟩ := Option.or_eq_none_iff.mp found
    obtain ⟨rfl, fits⟩ := Option.or_eq_none_iff.mp hfault
    obtain ⟨hread, agrees⟩ := openBracket_of_inspect hopen
    obtain ⟨-, hset, bounds⟩ := readBracket_of_inspect hbracket (by simp) agrees
    rw [hs, List.tail_cons] at hread
    rw [List.map_nil] at hset
    obtain ⟨x, hx⟩ : ∃ x, setRegex? i.scan.flags set.value = some x :=
      ⟨_, if_pos (unfit?_eq_none_iff.mp fits)⟩
    refine h.piece (n := ⟨x, set.height⟩) ?_ bounds
    simp only [token hs, tokenAt, hread, hset, hx, Option.map_some]
  case h_9 t hs =>
    split at hi
    · rename_i counts s' hcounts
      have token := token hs
      rw [tokenAt, hcounts] at token
      exact h.repetition token hi
    · obtain ⟨_, -, hi⟩ := Except.bind_eq_ok hi
      cases hi
  case h_10 t hs =>
    obtain rfl := Except.ok.inj hi
    obtain ⟨-, fits⟩ := Option.or_eq_none_iff.mp found
    cases hdot : dotRegex? i.scan.flags with
    | none => simp [hdot] at fits
    | some n =>
      refine h.piece (n := ⟨n, 0⟩) ?_ (Nat.zero_le _)
      rw [token hs, tokenAt, hdot]
      rfl
  case h_13 t hs =>
    obtain ⟨⟨p, s'⟩, hescape, hi⟩ := Except.bind_eq_ok hi
    obtain rfl := Except.ok.inj hi
    obtain ⟨-, fits⟩ := Option.or_eq_none_iff.mp found
    obtain ⟨a, n, hatom, hregex⟩ := Primitive.exists_of_fault?_eq_none fits
    refine h.piece (n := ⟨n, 0⟩) ?_ (Nat.zero_le _)
    rw [token hs, tokenAt, readEscape_of_inspect hescape hatom]
    simp only [hregex, Option.map_some]
  case h_14 =>
    rename_i c t _ _ _ _ _ _ _ _ _ _ _ _ hs
    obtain rfl := Except.ok.inj hi
    obtain ⟨-, fits⟩ := Option.or_eq_none_iff.mp found
    obtain ⟨a, n, hatom, hregex⟩ := Primitive.exists_of_fault?_eq_none fits
    obtain rfl := Except.ok.inj hatom
    refine h.piece (n := ⟨n, 0⟩) ?_ (Nat.zero_le _)
    rw [token hs]
    simp [tokenAt, hregex]
  case h_11 t hs =>
    obtain rfl := Except.ok.inj hi
    exact h.piece (token hs) (Nat.zero_le _)
  case h_12 t hs =>
    obtain rfl := Except.ok.inj hi
    exact h.piece (token hs) (Nat.zero_le _)
  all_goals
    rename_i t hs
    exact h.repetition (token hs) hi

theorem run {fuel : Nat} (h : i.Beside r) (place : i.scan = r.scan) (hi : i.run fuel = .ok i')
    (found : i'.late = none) : ∃ n < fuel, ∃ r', r.Reads n r' ∧ r'.AtEnd ∧ i'.Beside r' := by
  induction fuel generalizing i r with
  | zero => cases hi
  | succ fuel ih =>
    rw [Inspection.run] at hi
    simp only [place] at hi
    have here : Beside { i with scan := r.scan.onto r.scan.rest } r := ⟨h.course, h.groups⟩
    split at hi
    · rename_i ended
      obtain rfl := Except.ok.inj hi
      exact ⟨0, Nat.zero_lt_succ fuel, r, .here r, List.isEmpty_iff.mp ended, here⟩
    · rename_i more
      obtain ⟨i₁, hstep, hi⟩ := Except.bind_eq_ok hi
      obtain ⟨r₁, first, place₁, h₁⟩ :=
        here.step rfl (mt List.isEmpty_iff.mpr more) hstep (late_of_run hi found)
      obtain ⟨n, hn, r', reads, ended⟩ := ih h₁ place₁ hi
      exact ⟨n + 1, Nat.succ_lt_succ hn, r', .next first reads, ended⟩

end Inspection.Beside

/-- A pattern in which the second reading finds nothing is read, and not nested too deeply. -/
theorem parse_ne_malformed_of_fault?_eq_none {pattern : Text} (h : fault? pattern = none) :
    parse pattern ≠ .error .malformed := by
  rw [fault?] at h
  split at h
  · rename_i i hi
    have start : (Inspection.start pattern).Beside (Reading.start pattern) := ⟨.new pattern, .nil⟩
    rw [Inspection.fault?] at h
    split at h
    · cases h
    · rename_i closed
      split at h
      · cases h
      · rename_i shallow
        obtain ⟨n, hn, r, reads, atEnd, beside⟩ := start.run rfl hi h
        have groups := beside.groups
        rw [closed, List.forall₂_nil_left_iff] at groups
        have height : r.branches.finish.height ≤ nestingLimit :=
          (beside.course.bounds_finish _).trans (Part.tooDeep?_eq_none_iff _ |>.mp shallow)
        rw [parse_of_reads reads (Nat.le_of_lt_succ hn) atEnd groups height]
        split <;> simp
  · cases h

/-- A malformed glob is reported with the fault that is in it. -/
theorem Glob.errorText_malformed {glob : Text} (h : compile glob = .error .malformed) :
    ∃ e : Fault, errorText glob .malformed = e.message (source glob) := by
  have found : fault? (source glob) ≠ none := fun none =>
    parse_ne_malformed_of_fault?_eq_none none h
  unfold errorText
  generalize source glob = pattern at found ⊢
  cases hfault : fault? pattern with
  | none => exact absurd hfault found
  | some e => exact ⟨e, by simp only [hfault]⟩

/-- The marks stand under the range, past the anchor that is written before the glob. -/
example : Glob.errorText "[z-a]*".toList .malformed =
    ("regex parse error:\n    ^[z-a].*$\n      ^^^\n" ++
      "error: invalid character class range, the start must be <= the end").toList := by
  decide

end Runbook.Pattern
