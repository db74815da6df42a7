import Runbook.Proofs.JsonNumbers
import Runbook.Proofs.JsonStrings

/-! # Values in JSON text

A value whose members are in order, whose numbers are read back from their own texts and which is
not nested too deep is read back from its text. The text of any value is free of control characters.
-/
namespace Runbook.Json

/-! ## Characters -/

theorem Numeric.printable {c : Char} (h : Numeric c) : 0x20 ≤ c.toNat := by
  rcases h with h | h
  · obtain ⟨hlow, -⟩ := Char.isDigit_iff_toNat.mp h
    have hzero : '0'.toNat = 48 := rfl
    omega
  · have hmarks : ∀ c ∈ ['.', 'e', '+', '-'], 0x20 ≤ c.toNat := by simp
    exact hmarks c h

mutual

theorem render_printable (v : Json) : Printable v.render := by
  cases v with
  | null => decide
  | bool b => cases b <;> decide
  | number n => exact fun c hc => (numeric_text n c hc).printable
  | string t => exact quoted_printable t
  | array items =>
    rw [render]
    exact (Printable.cons (by decide) (renderItems_printable items)).append (by decide)
  | object members =>
    rw [render]
    exact (Printable.cons (by decide) (renderMembers_printable members)).append (by decide)

theorem renderItems_printable (items : List Json) : Printable (renderItems items) := by
  match items with
  | [] => exact printable_nil
  | [v] => exact render_printable v
  | v :: w :: rest =>
    exact (render_printable v).append (.cons (by decide) (renderItems_printable (w :: rest)))

theorem renderMembers_printable (members : List (Text × Json)) :
    Printable (renderMembers members) := by
  match members with
  | [] => exact printable_nil
  | [(n, v)] => exact (quoted_printable n).append (.cons (by decide) (render_printable v))
  | (n, v) :: p :: rest =>
    exact (((quoted_printable n).append (.cons (by decide) (render_printable v))).append
      (.cons (by decide) (renderMembers_printable (p :: rest))))

end

/-! ## Values -/

def Begun (t : Text) : Prop := ∃ c u, t = c :: u ∧ isSpace c = false ∧ c ≠ ']'

theorem Begun.append {t : Text} (h : Begun t) (rest : Text) : Begun (t ++ rest) := by
  obtain ⟨c, u, rfl, hspace, hclose⟩ := h
  exact ⟨c, u ++ rest, rfl, hspace, hclose⟩

theorem Begun.length_pos {t : Text} (h : Begun t) : 0 < t.length := by
  obtain ⟨c, u, rfl, -, -⟩ := h
  exact Nat.zero_lt_succ _

theorem skipSpace_of_begun {c : Char} (h : isSpace c = false) (t : Text) :
    skipSpace (c :: t) = c :: t := by
  rw [skipSpace, List.dropWhile_cons, h]
  rfl

theorem delimited_cons {c : Char} (hc : c = ',' ∨ c = ']' ∨ c = '\x7d') (t : Text) :
    Delimited (c :: t) := by
  intro d hd
  obtain rfl : c = d := Option.some.inj hd
  exact hc

/-- The value is read back from its text, whatever may follow it there. -/
def ReadsAt (depth : Nat) (v : Json) : Prop :=
  Begun v.render ∧ ∀ fuel rest, 2 * v.render.length ≤ fuel → Delimited rest →
    readValue fuel depth (v.render ++ rest) = .ok (v, rest)

theorem ReadsAt.of_succ {depth : Nat} {v : Json} (begun : Begun v.render)
    (h : ∀ fuel rest, 2 * v.render.length ≤ fuel + 1 → Delimited rest →
      readValue (fuel + 1) depth (v.render ++ rest) = .ok (v, rest)) : ReadsAt depth v := by
  refine ⟨begun, ?_⟩
  intro fuel rest enough delimited
  have hpos := begun.length_pos
  obtain ⟨fuel, rfl⟩ := Nat.exists_eq_add_one_of_ne_zero (n := fuel) (by omega)
  exact h fuel rest enough delimited

/-! ## Arrays

What follows an item is either the closing bracket or a comma and the other items. A round of the
reader takes one of the fuel and at least one character, of which each stands for two.
-/

section Arrays

variable {fuel depth : Nat} {first : Bool} {done items : List Json} {v : Json} {t rest : Text}

def itemsTail : List Json → Text
  | [] => []
  | v :: items => ',' :: renderItems (v :: items)

theorem renderItems_cons (v : Json) (items : List Json) :
    renderItems (v :: items) = render v ++ itemsTail items := by
  cases items with
  | nil => simp [renderItems, itemsTail]
  | cons w items => rw [renderItems, itemsTail]

theorem delimited_itemsTail (items : List Json) (rest : Text) :
    Delimited (itemsTail items ++ ']' :: rest) := by
  cases items with
  | nil => exact delimited_cons (.inr (.inl rfl)) rest
  | cons v items => exact delimited_cons (.inl rfl) _

theorem readItems_close :
    readItems (fuel + 1) depth first done (']' :: rest) = .ok (.array done.reverse, rest) := by
  rw [readItems]
  rfl

theorem readItems_first (begun : Begun t) (h : readValue fuel depth t = .ok (v, rest)) :
    readItems (fuel + 1) depth true done t = readItems fuel depth false (v :: done) rest := by
  obtain ⟨c, u, rfl, hspace, hclose⟩ := begun
  rw [readItems, skipSpace_of_begun hspace]
  simp [h]

theorem readItems_next (begun : Begun t) (h : readValue fuel depth t = .ok (v, rest)) :
    readItems (fuel + 1) depth false done (',' :: t) =
      readItems fuel depth false (v :: done) rest := by
  obtain ⟨c, u, rfl, hspace, hclose⟩ := begun
  have hcomma : isSpace ',' = false := rfl
  rw [readItems, skipSpace_of_begun hcomma]
  simp only [Char.reduceEq, imp_self, Bool.false_eq_true, if_false, if_true,
    skipSpace_of_begun hspace]
  split
  · rename_i heq
    cases heq
  · rename_i heq
    exact absurd (List.cons.inj heq).1 hclose
  · rw [h]

theorem readItems_itemsTail (h : ∀ v ∈ items, ReadsAt depth v)
    (enough : 2 * (itemsTail items).length + 3 ≤ fuel) :
    readItems fuel depth false done (itemsTail items ++ ']' :: rest) =
      .ok (.array (done.reverse ++ items), rest) := by
  induction items generalizing fuel done with
  | nil =>
    obtain ⟨fuel, rfl⟩ := Nat.exists_eq_add_one_of_ne_zero (n := fuel) (by omega)
    rw [itemsTail, List.nil_append, readItems_close, List.append_nil]
  | cons v items ih =>
    obtain ⟨⟨begun, reads⟩, hitems⟩ := List.forall_mem_cons.mp h
    rw [itemsTail, renderItems_cons] at enough ⊢
    rw [List.length_cons, List.length_append] at enough
    obtain ⟨fuel, rfl⟩ := Nat.exists_eq_add_one_of_ne_zero (n := fuel) (by omega)
    have hv := reads fuel (itemsTail items ++ ']' :: rest) (by omega)
      (delimited_itemsTail items rest)
    have hpos := begun.length_pos
    rw [List.cons_append, List.append_assoc, readItems_next (begun.append _) hv,
      ih hitems (by omega), List.reverse_cons, List.append_assoc, List.singleton_append]

theorem readItems_renderItems (h : ∀ v ∈ items, ReadsAt depth v)
    (enough : 2 * (renderItems items).length + 3 ≤ fuel) :
    readItems fuel depth true [] (renderItems items ++ ']' :: rest) = .ok (.array items, rest) := by
  obtain ⟨fuel, rfl⟩ := Nat.exists_eq_add_one_of_ne_zero (n := fuel) (by omega)
  cases items with
  | nil => exact readItems_close
  | cons v items =>
    obtain ⟨⟨begun, reads⟩, hitems⟩ := List.forall_mem_cons.mp h
    rw [renderItems_cons] at enough ⊢
    rw [List.length_append] at enough
    have hv := reads fuel (itemsTail items ++ ']' :: rest) (by omega)
      (delimited_itemsTail items rest)
    have hpos := begun.length_pos
    rw [List.append_assoc, readItems_first (begun.append _) hv,
      readItems_itemsTail hitems (by omega)]
    rfl

end Arrays

/-! ## Objects -/

section Objects

variable {fuel depth : Nat} {first : Bool} {done members : Members} {name t rest : Text} {v : Json}

def membersTail : Members → Text
  | [] => []
  | m :: members => ',' :: renderMembers (m :: members)

theorem renderMembers_cons (name : Text) (v : Json) (members : Members) :
    renderMembers ((name, v) :: members) =
      quoted name ++ ':' :: (render v ++ membersTail members) := by
  cases members with
  | nil => simp [renderMembers, membersTail]
  | cons m members => simp [renderMembers, membersTail]

theorem delimited_membersTail (members : Members) (rest : Text) :
    Delimited (membersTail members ++ '\x7d' :: rest) := by
  cases members with
  | nil => exact delimited_cons (.inr (.inr rfl)) rest
  | cons v members => exact delimited_cons (.inl rfl) _

theorem readMembers_close :
    readMembers (fuel + 1) depth first done ('\x7d' :: rest) = .ok (.object done, rest) := by
  rw [readMembers]
  rfl

theorem quoted_append (name t : Text) :
    quoted name ++ t = '"' :: (name.flatMap escapeChar ++ '"' :: t) := by
  simp [quoted]

theorem readMembers_first (h : readValue fuel depth t = .ok (v, rest)) :
    readMembers (fuel + 1) depth true done (quoted name ++ ':' :: t) =
      readMembers fuel depth false (done.insert name v) rest := by
  have hname := readString_quoted name (':' :: t)
  have hquote : isSpace '"' = false := rfl
  have hcolon : isSpace ':' = false := rfl
  rw [quoted_append]
  generalize name.flatMap escapeChar ++ '"' :: ':' :: t = u at hname ⊢
  rw [readMembers, skipSpace_of_begun hquote]
  simp [hname, skipSpace_of_begun hcolon, h]

theorem readMembers_next (h : readValue fuel depth t = .ok (v, rest)) :
    readMembers (fuel + 1) depth false done (',' :: (quoted name ++ ':' :: t)) =
      readMembers fuel depth false (done.insert name v) rest := by
  have hname := readString_quoted name (':' :: t)
  have hcomma : isSpace ',' = false := rfl
  have hquote : isSpace '"' = false := rfl
  have hcolon : isSpace ':' = false := rfl
  rw [quoted_append]
  generalize name.flatMap escapeChar ++ '"' :: ':' :: t = u at hname ⊢
  rw [readMembers, skipSpace_of_begun hcomma]
  simp [skipSpace_of_begun hquote, hname, skipSpace_of_begun hcolon, h]

/-! Members that come in order are put one after the other. -/

theorem nameLt_irrefl (s : Text) : nameLt s s = false := by
  induction s with
  | nil => rfl
  | cons a s ih => simp [nameLt, ih]

theorem nameLt_asymm {s t : Text} (h : nameLt s t = true) : nameLt t s = false := by
  induction s generalizing t with
  | nil =>
    cases t with
    | nil => cases h
    | cons b t => rfl
  | cons a s ih =>
    cases t with
    | nil => cases h
    | cons b t =>
      rw [nameLt] at h ⊢
      by_cases hab : a = b
      · subst hab
        rw [if_pos rfl] at h ⊢
        exact ih h
      · rw [if_neg hab, decide_eq_true_eq] at h
        rw [if_neg (Ne.symm hab), decide_eq_false_iff_not]
        omega

theorem insert_of_forall_nameLt (h : ∀ m ∈ done, nameLt m.1 name = true) (v : Json) :
    done.insert name v = done ++ [(name, v)] := by
  induction done with
  | nil => rfl
  | cons m done ih =>
    obtain ⟨other, w⟩ := m
    obtain ⟨hother, hdone⟩ := List.forall_mem_cons.mp h
    have hne : other ≠ name := by
      rintro rfl
      rw [nameLt_irrefl] at hother
      cases hother
    rw [Members.insert, if_neg hne, nameLt_asymm hother, ih hdone]
    rfl

def Ordered (members : Members) : Prop := members.Pairwise fun a b => nameLt a.1 b.1 = true

theorem readMembers_membersTail (h : ∀ m ∈ members, ReadsAt depth m.2)
    (ordered : Ordered (done ++ members)) (enough : 2 * (membersTail members).length + 3 ≤ fuel) :
    readMembers fuel depth false done (membersTail members ++ '\x7d' :: rest) =
      .ok (.object (done ++ members), rest) := by
  induction members generalizing fuel done with
  | nil =>
    obtain ⟨fuel, rfl⟩ := Nat.exists_eq_add_one_of_ne_zero (n := fuel) (by omega)
    rw [membersTail, List.nil_append, readMembers_close, List.append_nil]
  | cons m members ih =>
    obtain ⟨name, v⟩ := m
    obtain ⟨hvalue, hmembers⟩ := List.forall_mem_cons.mp h
    obtain ⟨-, reads⟩ : ReadsAt depth v := hvalue
    rw [membersTail, renderMembers_cons] at enough ⊢
    simp only [List.length_cons, List.length_append] at enough
    obtain ⟨fuel, rfl⟩ := Nat.exists_eq_add_one_of_ne_zero (n := fuel) (by omega)
    have hv := reads fuel (membersTail members ++ '\x7d' :: rest) (by omega)
      (delimited_membersTail members rest)
    have hdone : ∀ m ∈ done, nameLt m.1 name = true := fun m hm =>
      (List.pairwise_append.mp ordered).2.2 m hm _ List.mem_cons_self
    have hordered : Ordered ((done ++ [(name, v)]) ++ members) := by
      rw [List.append_assoc]
      exact ordered
    rw [List.cons_append, List.append_assoc, List.cons_append, List.append_assoc,
      readMembers_next hv, insert_of_forall_nameLt hdone, ih hmembers hordered (by omega),
      List.append_assoc, List.singleton_append]

theorem readMembers_renderMembers (h : ∀ m ∈ members, ReadsAt depth m.2)
    (ordered : Ordered members) (enough : 2 * (renderMembers members).length + 3 ≤ fuel) :
    readMembers fuel depth true [] (renderMembers members ++ '\x7d' :: rest) =
      .ok (.object members, rest) := by
  obtain ⟨fuel, rfl⟩ := Nat.exists_eq_add_one_of_ne_zero (n := fuel) (by omega)
  cases members with
  | nil => exact readMembers_close
  | cons m members =>
    obtain ⟨name, v⟩ := m
    obtain ⟨hvalue, hmembers⟩ := List.forall_mem_cons.mp h
    obtain ⟨-, reads⟩ : ReadsAt depth v := hvalue
    rw [renderMembers_cons] at enough ⊢
    simp only [List.length_cons, List.length_append] at enough
    have hv := reads fuel (membersTail members ++ '\x7d' :: rest) (by omega)
      (delimited_membersTail members rest)
    rw [List.append_assoc, List.cons_append, List.append_assoc, readMembers_first hv]
    have hordered : Ordered ([(name, v)] ++ members) := ordered
    exact readMembers_membersTail hmembers hordered (by omega)

end Objects

/-! ## Legible values -/

/-- Whatever JSON text can hold within so many levels of arrays and objects: the names of members
ascend, whole numbers have at most 64 bits and other numbers are read back from their texts. -/
inductive Legible : Nat → Json → Prop
  | null {levels : Nat} : Legible levels .null
  | bool {levels : Nat} (b : Bool) : Legible levels (.bool b)
  | string {levels : Nat} (t : Text) : Legible levels (.string t)
  | whole {levels : Nat} {n : Int} (low : -2 ^ 63 ≤ n) (high : n < 2 ^ 64) :
      Legible levels (.number (.whole n))
  | real {levels : Nat} {x : Decimal.Binary64}
      (exact : readValue 1 1 (realText x) = .ok (.number (.real x), [])) :
      Legible levels (.number (.real x))
  | array {levels : Nat} {items : List Json} (legible : ∀ v ∈ items, Legible levels v) :
      Legible (levels + 1) (.array items)
  | object {levels : Nat} {members : Members} (ordered : Ordered members)
      (legible : ∀ m ∈ members, Legible levels m.2) : Legible (levels + 1) (.object members)

theorem Numeric.begins {c : Char} (h : Numeric c) : isSpace c = false ∧ c ≠ ']' := by
  rcases h with h | h
  · refine ⟨isSpace_eq_false h, ?_⟩
    rintro rfl
    cases h
  · have hmarks : ∀ c ∈ ['.', 'e', '+', '-'], isSpace c = false ∧ c ≠ ']' := by simp [isSpace]
    exact hmarks c h

theorem begun_of_readValue {n : Number} (h : readValue 1 1 n.text = .ok (.number n, [])) :
    Begun n.text := by
  have hne : n.text ≠ [] := by
    intro hnil
    rw [hnil] at h
    cases h
  obtain ⟨c, u, hu⟩ := List.exists_cons_of_ne_nil hne
  exact ⟨c, u, hu, (numeric_text n c (hu ▸ List.mem_cons_self)).begins⟩

theorem readsAt_number {n : Number} (h : readValue 1 1 n.text = .ok (.number n, []))
    (depth : Nat) : ReadsAt depth (.number n) := by
  refine .of_succ (begun_of_readValue h) fun fuel rest _ delimited => ?_
  rw [render]
  exact readValue_number_append h delimited fuel depth

theorem readsAt_string (t : Text) (depth : Nat) : ReadsAt depth (.string t) := by
  refine .of_succ ⟨'"', _, rfl, rfl, by decide⟩ fun fuel rest _ _ => ?_
  have hquote : isSpace '"' = false := rfl
  rw [render, quoted_append, readValue, skipSpace_of_begun hquote]
  simp only [readString_quoted t rest]

theorem readsAt_array {depth : Nat} {items : List Json} (h : ∀ v ∈ items, ReadsAt depth v)
    (deep : 1 ≤ depth) : ReadsAt (depth + 1) (.array items) := by
  refine .of_succ ⟨'[', _, rfl, rfl, by decide⟩ fun fuel rest enough _ => ?_
  have hbracket : isSpace '[' = false := rfl
  have hlength : (render (.array items)).length = (renderItems items).length + 2 := by
    simp [render]
  have hitems : readItems fuel depth true [] (renderItems items ++ ']' :: rest) =
      .ok (.array items, rest) := readItems_renderItems h (by omega)
  rw [render, List.cons_append, List.cons_append, List.append_assoc, List.singleton_append,
    readValue, skipSpace_of_begun hbracket]
  simp only [if_neg (show ¬ depth + 1 ≤ 1 by omega), Nat.add_sub_cancel, hitems]

theorem readsAt_object {depth : Nat} {members : Members} (h : ∀ m ∈ members, ReadsAt depth m.2)
    (ordered : Ordered members) (deep : 1 ≤ depth) : ReadsAt (depth + 1) (.object members) := by
  refine .of_succ ⟨'\x7b', _, rfl, rfl, by decide⟩ fun fuel rest enough _ => ?_
  have hbrace : isSpace '\x7b' = false := rfl
  have hlength : (render (.object members)).length = (renderMembers members).length + 2 := by
    simp [render]
  have hmembers : readMembers fuel depth true [] (renderMembers members ++ '\x7d' :: rest) =
      .ok (.object members, rest) := readMembers_renderMembers h ordered (by omega)
  rw [render, List.cons_append, List.cons_append, List.append_assoc, List.singleton_append,
    readValue, skipSpace_of_begun hbrace]
  simp only [if_neg (show ¬ depth + 1 ≤ 1 by omega), Nat.add_sub_cancel, hmembers]

theorem readsAt_of_legible {levels depth : Nat} {v : Json} (h : Legible levels v)
    (deep : levels < depth) : ReadsAt depth v := by
  induction h generalizing depth with
  | null =>
    refine .of_succ ⟨'n', _, rfl, rfl, by decide⟩ fun fuel rest _ _ => ?_
    rw [readValue]
    rfl
  | bool b =>
    cases b with
    | false =>
      refine .of_succ ⟨'f', _, rfl, rfl, by decide⟩ fun fuel rest _ _ => ?_
      rw [readValue]
      rfl
    | true =>
      refine .of_succ ⟨'t', _, rfl, rfl, by decide⟩ fun fuel rest _ _ => ?_
      rw [readValue]
      rfl
  | string t => exact readsAt_string t depth
  | @whole levels n low high =>
    exact readsAt_number (n := .whole n) (readValue_ofInt low high) depth
  | @real levels x exact => exact readsAt_number (n := .real x) exact depth
  | array legible ih =>
    obtain ⟨depth, rfl⟩ := Nat.exists_eq_add_one_of_ne_zero (n := depth) (by omega)
    exact readsAt_array (fun v hv => ih v hv (by omega)) (by omega)
  | object ordered legible ih =>
    obtain ⟨depth, rfl⟩ := Nat.exists_eq_add_one_of_ne_zero (n := depth) (by omega)
    exact readsAt_object (fun m hm => ih m hm (by omega)) ordered (by omega)

/-- A legible value is what its text is read as. -/
theorem parse_render {levels : Nat} {v : Json} (h : Legible levels v)
    (deep : levels < nestingLimit) : parse v.render = .ok v := by
  obtain ⟨-, reads⟩ := readsAt_of_legible h deep
  have hread := reads (2 * v.render.length + 2) [] (by omega) delimited_nil
  rw [List.append_nil] at hread
  rw [parse, hread]
  rfl

end Runbook.Json
