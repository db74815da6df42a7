import Mathlib.Data.List.Induction
import Runbook.Text.Escape

/-! # Texts without their escape sequences

A text is written in chunks: characters among which there is no escape, and whole escape sequences.
Its end can cut a last sequence short. Taking the sequences out leaves the characters of the other
chunks, and so it can be done part by part wherever a text is not cut inside a sequence.
-/
namespace Runbook.Text

/-- A part of a text: characters as they are, a sequence with a bracket up to the character that
ends it, or an escape with one other character. -/
inductive Chunk where
  | plain (t : Text) (noEscape : escape ∉ t)
  | control (parameters : Text) (final : Char) (unended : ∀ c ∈ parameters, isFinal c = false)
      (ends : isFinal final = true)
  | short (c : Char) (noBracket : c ≠ '[')

namespace Chunk

def written : Chunk → Text
  | .plain t _ => t
  | .control parameters final _ _ => escape :: '[' :: parameters ++ [final]
  | .short c _ => [escape, c]

def shown : Chunk → Text
  | .plain t _ => t
  | .control _ _ _ _ | .short _ _ => []

theorem escape_not_mem_shown (c : Chunk) : escape ∉ c.shown := by
  cases c with
  | plain t noEscape => exact noEscape
  | control | short => exact List.not_mem_nil

end Chunk

inductive Fragment where
  | lone
  | bracket (parameters : Text) (unended : ∀ c ∈ parameters, isFinal c = false)

def Fragment.written : Fragment → Text
  | .lone => [escape]
  | .bracket parameters _ => escape :: '[' :: parameters

/-- A text whose end cuts a sequence short. -/
def EndsInFragment (t : Text) : Prop :=
  ∃ (chunks : List Chunk) (f : Fragment), t = chunks.flatMap Chunk.written ++ f.written

/-! ## From one state to another -/

def EscapeState.after (s : EscapeState) (t : Text) : EscapeState := t.foldl EscapeState.next s

theorem stripFrom_append (s : EscapeState) (t u : Text) :
    stripFrom s (t ++ u) = stripFrom s t ++ stripFrom (s.after t) u := by
  induction t generalizing s with
  | nil => rfl
  | cons c t ih =>
    have hstate : s.after (c :: t) = (s.next c).after t := rfl
    rw [List.cons_append, stripFrom, stripFrom, ih, hstate]
    split
    · rfl
    · rfl

theorem EscapeState.after_append (s : EscapeState) (t u : Text) :
    s.after (t ++ u) = (s.after t).after u :=
  List.foldl_append

/-- A text that is read from a state and leads to another, and what is left of it. -/
structure Passes (s : EscapeState) (t kept : Text) (s' : EscapeState) : Prop where
  left : stripFrom s t = kept
  reached : s.after t = s'

theorem Passes.append {s s' s'' : EscapeState} {t u kept kept' : Text} (h : Passes s t kept s')
    (h' : Passes s' u kept' s'') : Passes s (t ++ u) (kept ++ kept') s'' where
  left := by rw [stripFrom_append, h.left, h.reached, h'.left]
  reached := by rw [EscapeState.after_append, h.reached, h'.reached]

theorem passes_plain {t : Text} (noEscape : escape ∉ t) : Passes .plain t t .plain := by
  induction t with
  | nil => exact ⟨rfl, rfl⟩
  | cons c t ih =>
    obtain ⟨hc, ht⟩ := not_or.mp (mt List.mem_cons.mpr noEscape)
    have hfirst : Passes .plain [c] [c] .plain := by
      constructor
      · simp [stripFrom, EscapeState.keeps, Ne.symm hc]
      · simp [EscapeState.after, EscapeState.next, Ne.symm hc]
    exact hfirst.append (ih ht)

theorem passes_parameters {p : Text} (unended : ∀ c ∈ p, isFinal c = false) :
    Passes .bracketed p [] .bracketed := by
  induction p with
  | nil => exact ⟨rfl, rfl⟩
  | cons c p ih =>
    obtain ⟨hc, hp⟩ := List.forall_mem_cons.mp unended
    have hfirst : Passes .bracketed [c] [] .bracketed := by
      constructor
      · rfl
      · simp [EscapeState.after, EscapeState.next, hc]
    exact hfirst.append (ih hp)

theorem passes_bracket : Passes .plain [escape, '['] [] .bracketed := ⟨rfl, rfl⟩

theorem Chunk.passes (c : Chunk) : Passes .plain c.written c.shown .plain := by
  cases c with
  | plain t noEscape => exact passes_plain noEscape
  | control parameters final unended ends =>
    have hfinal : Passes .bracketed [final] [] .plain := by
      constructor
      · rfl
      · simp [EscapeState.after, EscapeState.next, ends]
    exact passes_bracket.append ((passes_parameters unended).append hfinal)
  | short c noBracket =>
    constructor
    · rfl
    · simp [written, EscapeState.after, EscapeState.next, noBracket]

theorem passes_chunks (chunks : List Chunk) :
    Passes .plain (chunks.flatMap Chunk.written) (chunks.flatMap Chunk.shown) .plain := by
  induction chunks with
  | nil => exact ⟨rfl, rfl⟩
  | cons c chunks ih => exact c.passes.append ih

theorem Fragment.passes (f : Fragment) : ∃ s, s ≠ .plain ∧ Passes .plain f.written [] s := by
  cases f with
  | lone => exact ⟨.escaped, by decide, rfl, rfl⟩
  | bracket parameters unended =>
    exact ⟨.bracketed, by decide, passes_bracket.append (passes_parameters unended)⟩

/-! ## Every text is written in chunks -/

def IsPiece (t : Text) : Prop := (∃ c : Chunk, t = c.written) ∨ ∃ f : Fragment, t = f.written

theorem isPiece_singleton (c : Char) : IsPiece [c] := by
  by_cases hc : escape = c
  · subst hc
    exact .inr ⟨.lone, rfl⟩
  · exact .inl ⟨.plain [c] fun h => hc (List.mem_singleton.mp h), rfl⟩

theorem Fragment.isPiece_concat (f : Fragment) (c : Char) : IsPiece (f.written ++ [c]) := by
  cases f with
  | lone =>
    by_cases hc : c = '['
    · subst hc
      exact .inr ⟨.bracket [] (by simp), rfl⟩
    · exact .inl ⟨.short c hc, rfl⟩
  | bracket parameters unended =>
    cases hc : isFinal c with
    | true => exact .inl ⟨.control parameters c unended hc, rfl⟩
    | false =>
      have unended' : ∀ a ∈ parameters ++ [c], isFinal a = false := by
        intro a ha
        rcases List.mem_append.mp ha with ha | ha
        · exact unended a ha
        · rwa [List.mem_singleton.mp ha]
      exact .inr ⟨.bracket (parameters ++ [c]) unended', rfl⟩

theorem IsPiece.prepend {t : Text} (h : IsPiece t) (chunks : List Chunk) :
    (∃ l : List Chunk, chunks.flatMap Chunk.written ++ t = l.flatMap Chunk.written) ∨
      EndsInFragment (chunks.flatMap Chunk.written ++ t) := by
  rcases h with ⟨c, rfl⟩ | ⟨f, rfl⟩
  · refine .inl ⟨chunks ++ [c], ?_⟩
    rw [List.flatMap_append, List.flatMap_singleton]
  · exact .inr ⟨chunks, f, rfl⟩

theorem exists_chunks (t : Text) :
    (∃ chunks : List Chunk, t = chunks.flatMap Chunk.written) ∨ EndsInFragment t := by
  -- From the end: one more character begins a piece, or goes on with the one that is cut short.
  induction t using List.reverseRecOn with
  | nil => exact .inl ⟨[], rfl⟩
  | append_singleton t c ih =>
    rcases ih with ⟨chunks, rfl⟩ | ⟨chunks, f, rfl⟩
    · exact (isPiece_singleton c).prepend chunks
    · rw [List.append_assoc]
      exact (f.isPiece_concat c).prepend chunks

theorem after_eq_plain_iff (t : Text) : EscapeState.plain.after t = .plain ↔ ¬ EndsInFragment t := by
  constructor
  · rintro hplain ⟨chunks, f, rfl⟩
    obtain ⟨s, hs, hf⟩ := f.passes
    exact hs (((passes_chunks chunks).append hf).reached.symm.trans hplain)
  · intro whole
    obtain ⟨chunks, rfl⟩ := (exists_chunks t).resolve_right whole
    exact (passes_chunks chunks).reached

/-- What is left of a text is what some chunks show. -/
theorem exists_shown (t : Text) : ∃ chunks : List Chunk,
    stripEscapes t = chunks.flatMap Chunk.shown := by
  rcases exists_chunks t with ⟨chunks, rfl⟩ | ⟨chunks, f, rfl⟩
  · exact ⟨chunks, (passes_chunks chunks).left⟩
  · obtain ⟨s, -, hf⟩ := f.passes
    refine ⟨chunks, ?_⟩
    rw [stripEscapes, ((passes_chunks chunks).append hf).left, List.append_nil]

theorem escape_not_mem_stripEscapes (t : Text) : escape ∉ stripEscapes t := by
  obtain ⟨chunks, hshown⟩ := exists_shown t
  rw [hshown]
  intro h
  obtain ⟨c, -, hc⟩ := List.mem_flatMap.mp h
  exact c.escape_not_mem_shown hc

theorem stripEscapes_of_not_mem {t : Text} (noEscape : escape ∉ t) : stripEscapes t = t :=
  (passes_plain noEscape).left

/-- A text can be read apart from what follows exactly when it is not cut inside a sequence: the
letter after a sequence that is cut short would be taken for a part of it. -/
theorem stripEscapes_append_iff (s : Text) :
    (∀ t, stripEscapes (s ++ t) = stripEscapes s ++ stripEscapes t) ↔ ¬ EndsInFragment s := by
  rw [← after_eq_plain_iff]
  constructor
  · intro apart
    have hletter : stripFrom (EscapeState.plain.after s) ['m'] = ['m'] := by
      have h := apart ['m']
      rw [stripEscapes, stripFrom_append] at h
      exact List.append_cancel_left h
    cases hs : EscapeState.plain.after s with
    | plain => rfl
    | escaped | bracketed =>
      rw [hs] at hletter
      cases hletter
  · intro hs t
    rw [stripEscapes, stripFrom_append, hs]
    rfl

/-- What takes the escape sequences out of texts, and nothing else. -/
structure RemovesEscapes (strip : Text → Text) : Prop where
  chunks (l : List Chunk) : strip (l.flatMap Chunk.written) = l.flatMap Chunk.shown
  apart (s : Text) : (∀ t, strip (s ++ t) = strip s ++ strip t) ↔ ¬ EndsInFragment s
  clean (t : Text) : escape ∉ strip t
  again (t : Text) : strip (strip t) = strip t

theorem removesEscapes_stripEscapes : RemovesEscapes stripEscapes where
  chunks l := (passes_chunks l).left
  apart := stripEscapes_append_iff
  clean := escape_not_mem_stripEscapes
  again t := stripEscapes_of_not_mem (escape_not_mem_stripEscapes t)

-- An escape can be the one other character of a sequence, and a parameter.
example : stripEscapes "a\x1b\x1b[mb\x1b[3\x1b1mc\x1b[".toList = "a[mbc".toList := by
  decide

end Runbook.Text
