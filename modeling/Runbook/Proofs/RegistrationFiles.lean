import Runbook.Backend.Registration
import Runbook.FileSystem.Virtual
import Runbook.Proofs.Comments
import Runbook.Proofs.MarkerLines
import Runbook.Proofs.RegistrationStatement
import Runbook.Proofs.Rendering
import Runbook.Reference.Resolution

/-! # Registration files

A file is written with marker lines and a body below them. Where it is registered, the document has
the body and what the markers say; where it is run as it is, nothing is taken off it.
-/
namespace Runbook

namespace Options

open RunFile (IsLineEnd)
open Text (Trimmed)

/-- A marker that can be written on a line: a name, and a value with its JSON text. -/
structure Marker where
  name : Text
  text : Text
  value : Json
  present : name ≠ []
  noColon : ':' ∉ name
  oneLine : '\n' ∉ name ∧ '\n' ∉ text
  trimmed : Trimmed name ∧ Trimmed text
  reads : Json.parse text = .ok value

namespace Marker

def pair (m : Marker) : Text × Json := (m.name, m.value)

def line (m : Marker) : Text := '!' :: (m.name ++ ':' :: m.text)

inductive Writes (m : Marker) : Text → Prop
  | line {lineEnd : Text} (ends : IsLineEnd lineEnd) : Writes m (m.line ++ lineEnd)

variable {m : Marker} {t : Text}

theorem line_trimmed (m : Marker) : Trimmed m.line where
  first := by
    intro c hc
    obtain rfl := Option.some.inj hc
    decide
  last := by
    intro c hc
    have hlast : m.line.getLast? = (':' :: m.text).getLast? := by
      rw [line, ← List.cons_append]
      exact List.getLast?_append_of_ne_nil _ (List.cons_ne_nil _ _)
    rw [hlast, List.getLast?_cons] at hc
    cases ht : m.text.getLast? with
    | none =>
      rw [ht] at hc
      obtain rfl := Option.some.inj hc
      decide
    | some d =>
      rw [ht] at hc
      obtain rfl := Option.some.inj hc
      exact m.trimmed.2.last d ht

theorem noFeed_line (m : Marker) : '\n' ∉ m.line := by
  simp [line, m.oneLine]

/-- White space after the text of a marker changes nothing. -/
theorem marks_padded (m : Marker) {right : Text} (blank : Text.isBlankText right = true) :
    Marks (m.line ++ right) m.pair := by
  have htrim : Text.trim (m.line ++ right) = '!' :: (m.name ++ ':' :: m.text) :=
    @Text.trim_padded [] _ _ rfl m.line_trimmed blank
  have hname : Text.trim m.name = m.name := m.trimmed.1.trim_eq
  have hvalue : Json.parse (Text.trim m.text) = .ok m.value := by
    rw [m.trimmed.2.trim_eq]
    exact m.reads
  have hmarks := Marks.marker htrim m.noColon (hname.symm ▸ m.present) hvalue
  rwa [hname] at hmarks

/-- What is written for a marker is a marker line and a line feed. -/
theorem Writes.exists_line (h : m.Writes t) :
    ∃ l, t = l ++ ['\n'] ∧ '\n' ∉ l ∧ Marks l m.pair := by
  obtain ⟨rfl | rfl⟩ := h
  · refine ⟨m.line, rfl, m.noFeed_line, ?_⟩
    have hmarks := @m.marks_padded [] rfl
    rwa [List.append_nil] at hmarks
  · refine ⟨m.line ++ ['\r'], by simp, ?_, m.marks_padded (by decide)⟩
    rw [List.mem_append, not_or]
    exact ⟨m.noFeed_line, by decide⟩

end Marker

theorem Marks.isMarker {line : Text} {p : Text × Json} (h : Marks line p) : IsMarker line := by
  cases h with
  | marker text first named value => exact ⟨_, text⟩

theorem splitOn_feed {line : Text} (noFeed : '\n' ∉ line) (t : Text) :
    (line ++ ['\n'] ++ t).splitOn '\n' = line :: t.splitOn '\n' := by
  have hplain : ∀ c ∈ line, (c == '\n') = false := fun c hc =>
    beq_eq_false_iff_ne.mpr fun h => noFeed (h ▸ hc)
  rw [List.append_assoc, List.singleton_append, List.splitOn_eq_splitOnP,
    List.splitOnP_append_cons_of_forall_mem hplain '\n' (beq_self_eq_true _),
    List.splitOn_eq_splitOnP]

/-- The lines that are written for markers are the marker lines that the file begins with. -/
theorem exists_block_of_writes {markers : List Marker} {written : List Text} {body : Text}
    (writes : List.Forall₂ Marker.Writes markers written)
    (plain : ∀ line ∈ (body.splitOn '\n').head?, ¬ IsMarker line) :
    ∃ marked, Block (written.flatten ++ body) marked (body.splitOn '\n') ∧
      List.Forall₂ Marks marked (markers.map Marker.pair) := by
  induction writes with
  | nil => exact ⟨[], ⟨rfl, List.forall_mem_nil _, plain⟩, .nil⟩
  | @cons m t markers written first _ ih =>
    obtain ⟨marked, block, marks⟩ := ih
    obtain ⟨l, rfl, noFeed, hl⟩ := first.exists_line
    refine ⟨l :: marked, ⟨?_, ?_, plain⟩, .cons hl marks⟩
    · rw [List.flatten_cons, List.append_assoc, splitOn_feed noFeed, block.lines]
      rfl
    · exact List.forall_mem_cons.mpr ⟨hl.isMarker, block.markers⟩

/-- The markers are taken off and the body is left as it was written. -/
theorem exists_extract_of_writes {markers : List Marker} {written : List Text} {body : Text}
    (present : markers ≠ []) (writes : List.Forall₂ Marker.Writes markers written)
    (plain : ∀ line ∈ (body.splitOn '\n').head?, ¬ IsMarker line) :
    ∃ options, extract (written.flatten ++ body) = .ok (some options, body) ∧
      Json.Ordered options ∧
      ∀ name, options.get? name = (markers.map Marker.pair).reverse.lookup name := by
  obtain ⟨marked, block, marks⟩ := exists_block_of_writes writes plain
  have hmarked : marked ≠ [] := by
    rintro rfl
    cases markers with
    | nil => exact present rfl
    | cons m markers => cases marks
  have hordered : Json.Ordered (Json.Members.insertAll [] (markers.map Marker.pair)) :=
    Json.Members.ordered_insertAll List.Pairwise.nil _
  have hvalues : ∀ name, (Json.Members.insertAll [] (markers.map Marker.pair)).get? name =
      (markers.map Marker.pair).reverse.lookup name := by
    intro name
    rw [Json.Members.get?_insertAll]
    exact Option.or_none
  have hextract := extract_of_extracts (.options block hmarked marks hordered hvalues)
  rw [List.intercalate_splitOn] at hextract
  exact ⟨_, hextract, hordered, hvalues⟩

end Options

namespace Registration

open Options (Marker IsMarker)
open Text (Trimmed)

variable {fs : FileSystem} {path : Path}

theorem files_of_isFile (notDirectory : fs.isDirectory path = false)
    (noWildcard : Pattern.Glob.wildcard ∉ path.display) (file : fs.isFile path = true) :
    Resolution.files fs path = ⟨.ok [path], []⟩ := by
  simp [Resolution.files, notDirectory, noWildcard, file]

theorem resolve_of_leaf {r : Reference} {d : Directive}
    (found : Resolution.files fs r.path = ⟨.ok [r.path], []⟩)
    (leaf : Resolution.leaf fs r r.path = .ok d) : (r.resolve fs).result = .ok [d] := by
  simp only [Reference.resolve, found, Resolution.leaves, leaf]

/-- A file that is written with markers and a body is one directive, registered or not. The document
that registers it has the name of the file, the body, and the values of the markers, of two markers
with one name that of the later. -/
theorem document_of_written {fs : FileSystem} {path : Path} {markers : List Marker}
    {written : List Text} {body : Text} (present : markers ≠ [])
    (writes : List.Forall₂ Marker.Writes markers written)
    (plain : ∀ line ∈ (body.splitOn '\n').head?, ¬ IsMarker line)
    (notDirectory : fs.isDirectory path = false)
    (noWildcard : Pattern.Glob.wildcard ∉ path.display) (file : fs.isFile path = true)
    (content : fs.read path = .ok (written.flatten ++ body)) :
    (∃ options : Json.Members, Json.Ordered options ∧
      (∀ name, options.get? name = (markers.map Marker.pair).reverse.lookup name) ∧
      ∀ s : Subtype, s.isRegistration = true → ∃ d,
        (Reference.resolve fs ⟨.sql, s, path⟩).result = .ok [d] ∧
        d = ⟨.sql, s, some options, body, some path⟩ ∧
        ∀ stem, path.fileStem? = some stem →
          document d = .object [("content".toList, .string body),
            ("name".toList, .string (Text.decodeLossy stem)),
            ("options".toList, .object options)]) ∧
      (Reference.resolve fs ⟨.sql, .raw, path⟩).result =
        .ok [⟨.sql, .raw, none, written.flatten ++ body, some path⟩] := by
  obtain ⟨options, hextract, ordered, values⟩ :=
    Options.exists_extract_of_writes present writes plain
  have hfiles := files_of_isFile notDirectory noWildcard file
  refine ⟨⟨options, ordered, values, ?_⟩, ?_⟩
  · intro s registered
    refine ⟨_, resolve_of_leaf hfiles ?_, rfl, ?_⟩
    · simp only [Resolution.leaf, content, registered, if_true, hextract]
    · intro stem hstem
      have hname : Directive.name ⟨.sql, s, some options, body, some path⟩ =
          Text.decodeLossy stem := by
        simp [Directive.name, hstem]
      rw [document_eq, hname]
      rfl
  · refine resolve_of_leaf hfiles ?_
    simp only [Resolution.leaf, content]
    rfl

/-- The first and the third marker have one name, which begins with an exclamation mark; the body
begins with an empty line, after which a marker is none. -/
theorem document_of_written_repeatedName :
    let path := Path.ofText "reports/sales.v2.sql".toList
    let text := "!!a:\"x:!y\"\n!b:1\r\n!!a:null\n\n!c:2".toList
    let fs := (Virtual.empty.put path (.file (Text.encode text))).fileSystem
    ∃ options : Json.Members, Json.Ordered options ∧
      options.get? "!a".toList = some .null ∧ options.get? "b".toList = some (.nat 1) ∧
      options.get? "c".toList = none ∧
      (∃ d, (Reference.resolve fs ⟨.sql, .report, path⟩).result = .ok [d] ∧
        document d = .object [("content".toList, .string "\n!c:2".toList),
          ("name".toList, .string "sales.v2".toList), ("options".toList, .object options)]) ∧
      (Reference.resolve fs ⟨.sql, .raw, path⟩).result =
        .ok [⟨.sql, .raw, none, text, some path⟩] := by
  intro path text fs
  have twice : Trimmed "!a".toList ∧ Trimmed "\"x:!y\"".toList := by
    constructor <;> constructor <;> simp [Text.isBlank]
  have once : Trimmed "b".toList ∧ Trimmed "1".toList := by
    constructor <;> constructor <;> simp [Text.isBlank]
  have again : Trimmed "!a".toList ∧ Trimmed "null".toList := by
    constructor <;> constructor <;> simp [Text.isBlank]
  let first : Marker := ⟨"!a".toList, "\"x:!y\"".toList, .string "x:!y".toList, by decide,
    by decide, by decide, twice, rfl⟩
  let second : Marker := ⟨"b".toList, "1".toList, .nat 1, by decide, by decide, by decide, once,
    rfl⟩
  let third : Marker := ⟨"!a".toList, "null".toList, .null, by decide, by decide, by decide, again,
    rfl⟩
  have writes : List.Forall₂ Marker.Writes [first, second, third]
      ["!!a:\"x:!y\"\n".toList, "!b:1\r\n".toList, "!!a:null\n".toList] :=
    .cons (.line (.inl rfl)) (.cons (.line (.inr rfl)) (.cons (.line (.inl rfl)) .nil))
  have plain : ∀ line ∈ ("\n!c:2".toList.splitOn '\n').head?, ¬ IsMarker line := by
    rintro line hline ⟨rest, hrest⟩
    obtain rfl := Option.some.inj hline
    cases hrest
  obtain ⟨⟨options, ordered, values, registered⟩, raw⟩ :=
    @document_of_written fs path _ _ _ (List.cons_ne_nil _ _) writes plain rfl (by decide) rfl rfl
  obtain ⟨d, hresolve, -, hdocument⟩ := registered .report rfl
  exact ⟨options, ordered, values _, values _, values _, ⟨d, hresolve, hdocument _ rfl⟩, raw⟩

end Registration

end Runbook
