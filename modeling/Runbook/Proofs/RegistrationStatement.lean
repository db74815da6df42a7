import Runbook.Backend.Registration
import Runbook.Proofs.JsonRoundTrip

/-! # Registration statements

The string literal of a registration statement ends where it should and stands for the text of the
document, and the text stands for the document.
-/
namespace Runbook.Registration

/-! ## String literals

In standard SQL a doubled quote stands for one, a single quote ends the literal, and a backslash is
a character like any other.
-/

/-- What the rest of a literal stands for, whose opening quote is read, and what follows it. -/
def scanQuoted : Text → Option (Text × Text)
  | [] => none
  | c :: t =>
    if c = quoteMark then
      match t with
      | [] => some ([], [])
      | d :: rest =>
        if d = quoteMark then (scanQuoted rest).map fun p => (quoteMark :: p.1, p.2)
        else some ([], d :: rest)
    else (scanQuoted t).map fun p => (c :: p.1, p.2)

/-- What the literal at the beginning of a text stands for, and what follows it. -/
def scanLiteral : Text → Option (Text × Text)
  | [] => none
  | c :: t => if c = quoteMark then scanQuoted t else none

theorem scanQuoted_plain {c : Char} (hc : c ≠ quoteMark) (t : Text) :
    scanQuoted (c :: t) = (scanQuoted t).map fun p => (c :: p.1, p.2) := by
  cases t <;> simp [scanQuoted, hc]

theorem scanQuoted_doubleQuotes (t : Text) {rest : Text} (h : rest.head? ≠ some quoteMark) :
    scanQuoted (doubleQuotes t ++ quoteMark :: rest) = some (t, rest) := by
  induction t with
  | nil =>
    cases rest with
    | nil => rfl
    | cons d rest =>
      have hd : d ≠ quoteMark := fun hd => h (congrArg some hd)
      simp [doubleQuotes, scanQuoted, hd]
  | cons c t ih =>
    rw [doubleQuotes, List.flatMap_cons, List.append_assoc, ← doubleQuotes]
    by_cases hc : c = quoteMark
    · subst hc
      simp [scanQuoted, ih]
    · rw [if_neg hc, List.singleton_append, scanQuoted_plain hc, ih]
      rfl

/-- A literal is read to its end, unless a quote follows at once. -/
theorem scanLiteral_literal (t : Text) {rest : Text} (h : rest.head? ≠ some quoteMark) :
    scanLiteral (literal t ++ rest) = some (t, rest) := by
  rw [literal, List.append_assoc, List.cons_append, List.singleton_append, scanLiteral,
    if_pos rfl, scanQuoted_doubleQuotes t h]

theorem doubleQuotes_printable {t : Text} (h : Json.Printable t) :
    Json.Printable (doubleQuotes t) := by
  intro c hc
  obtain ⟨d, hd, hcd⟩ := List.mem_flatMap.mp hc
  have hcd' : c = d := by
    split at hcd
    · rename_i hquote
      subst hquote
      simpa using hcd
    · exact List.mem_singleton.mp hcd
  exact hcd' ▸ h d hd

theorem literal_printable {t : Text} (h : Json.Printable t) : Json.Printable (literal t) :=
  ((doubleQuotes_printable h).cons (by decide)).append (by decide)

/-! ## Documents -/

theorem document_eq (d : Directive) :
    document d = .object [("content".toList, .string d.content), ("name".toList, .string d.name),
      ("options".toList, .object (d.options.getD []))] := by
  simp [document, Json.obj, Json.Members.ofList, Json.Members.insert, Json.nameLt]

theorem legible_document {levels : Nat} {d : Directive}
    (h : Json.Legible levels (.object (d.options.getD []))) :
    Json.Legible (levels + 1) (document d) := by
  have hordered : Json.Ordered [("content".toList, .string d.content),
      ("name".toList, .string d.name), ("options".toList, .object (d.options.getD []))] := by
    simp [Json.Ordered, Json.nameLt]
  rw [document_eq]
  refine .object hordered ?_
  simp only [List.forall_mem_cons]
  exact ⟨.string _, .string _, h, List.forall_mem_nil _⟩

/-- The literal of a registration statement ends before the cast to JSON, stands for the text of the
document and holds no control character. Where JSON text can hold the options, the text is read as
an object of the content, the name and the options. -/
theorem statement_decodes (schema : Text) (d : Directive) :
    ∃ sql, statement schema d =
        "SELECT ".toList ++ schema ++ ".register_".toList ++ d.subtype.tag ++
          '(' :: sql ++ "::json)".toList ∧
      scanLiteral (sql ++ "::json)".toList) = some ((document d).render, "::json)".toList) ∧
      (∀ c ∈ sql, 0x20 ≤ c.toNat) ∧
      (Json.Legible 126 (.object (d.options.getD [])) →
        Json.parse (document d).render =
          .ok (.object [("content".toList, .string d.content), ("name".toList, .string d.name),
            ("options".toList, .object (d.options.getD []))])) := by
  have hmark : "::json)".toList.head? ≠ some quoteMark := by decide
  have hscan := scanLiteral_literal (document d).render hmark
  have hprintable := literal_printable (Json.render_printable (document d))
  refine ⟨literal (document d).render, ?_, hscan, hprintable, ?_⟩
  · have haction : '.' :: action d.subtype = ".register_".toList ++ d.subtype.tag := by
      unfold action
      simp
    unfold statement
    rw [haction]
    simp only [List.append_assoc]
  · intro legible
    -- The document is one more level around its options, and of 128 levels the last is not read.
    rw [← document_eq]
    exact Json.parse_render (legible_document legible) (by decide)

theorem half_legible (levels : Nat) :
    Json.Legible levels (.number (.real ⟨false, 2 ^ 52, -53⟩)) := by
  have htext : Json.realText ⟨false, 2 ^ 52, -53⟩ = ['0', '.', '5'] := by decide +kernel
  have hdigits : Json.absorb 0 ['5'] = (5, []) := rfl
  have hreal : Json.readReal false 5 (-1) [] = .ok (.number (.real ⟨false, 2 ^ 52, -53⟩), []) := rfl
  have hfraction : Json.readFraction false 0 0 ['5'] =
      .ok (.number (.real ⟨false, 2 ^ 52, -53⟩), []) := by
    simp [Json.readFraction, hdigits, hreal]
  refine .real ?_
  rw [htext, Json.readValue_of_digit (c := '0') (u := ['.', '5']) rfl rfl]
  exact hfraction

/-- A content that would end the literal and the statement. -/
def breakout : Directive where
  kind := .sql
  subtype := .report
  options := some [("it's".toList, .array [.number (.whole (-3)),
    .number (.real ⟨false, 2 ^ 52, -53⟩), .object [("\"".toList, .null)]])]
  content := "'::json); DROP TABLE t; --\n\\".toList
  source := some (.ofText "sql/o'brien.sql".toList)

theorem statement_decodes_breakout :
    ∃ sql, statement "admin".toList breakout =
        "SELECT ".toList ++ "admin".toList ++ ".register_".toList ++ "report".toList ++
          '(' :: sql ++ "::json)".toList ∧
      scanLiteral (sql ++ "::json)".toList) =
        some ((document breakout).render, "::json)".toList) ∧
      Json.parse (document breakout).render =
        .ok (.object [("content".toList, .string breakout.content),
          ("name".toList, .string "o'brien".toList),
          ("options".toList, .object (breakout.options.getD []))]) := by
  have hinner : Json.Legible 124 (.object [("\"".toList, .null)]) :=
    .object (List.pairwise_singleton _ _) (List.forall_mem_singleton.mpr .null)
  have hitems : Json.Legible 125 (.array [.number (.whole (-3)),
      .number (.real ⟨false, 2 ^ 52, -53⟩), .object [("\"".toList, .null)]]) :=
    .array (List.forall_mem_cons.mpr ⟨.whole (by decide) (by decide),
      List.forall_mem_cons.mpr ⟨half_legible _, List.forall_mem_singleton.mpr hinner⟩⟩)
  have hoptions : Json.Legible 126 (.object (breakout.options.getD [])) :=
    .object (List.pairwise_singleton _ _) (List.forall_mem_singleton.mpr hitems)
  have hname : breakout.name = "o'brien".toList := by decide
  have htag : breakout.subtype.tag = "report".toList := rfl
  obtain ⟨sql, hstatement, hscan, -, hparse⟩ := statement_decodes "admin".toList breakout
  rw [htag] at hstatement
  rw [hname] at hparse
  exact ⟨sql, hstatement, hscan, hparse hoptions⟩

end Runbook.Registration
