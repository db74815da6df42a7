import Runbook.Directive.Line
import Runbook.Proofs.Texts

/-! # The grammar of directive lines

The grammar says what each line stands for, or in which of four ways it breaks the rules, by the
shape of its tag alone. Reading a line gives exactly what the grammar says of it.
-/
namespace Runbook

open Text (CutAt SameLetters sameLetters_iff sameLetters_iff_of_capitals)

namespace Line

inductive Allowed : Kind → Subtype → Prop
  | sql (s : Subtype) : Allowed .sql s
  | api : Allowed .api .raw

def IsPlainTag (tag : Text) (k : Kind) : Prop :=
  (k = .sql ∨ k = .api) ∧ SameLetters tag (fileMark ++ k.tag)

/-- A tag that refers to files of a kind and goes on, after a slash, with this text. -/
def IsTypedTag (tag : Text) (k : Kind) (subtype : Text) : Prop :=
  (k = .sql ∨ k = .api) ∧ SameLetters tag (fileMark ++ k.tag ++ '/' :: subtype)

/-- A tag of references that are allowed; where no subtype is written, it is the raw one. -/
inductive IsReferenceTag (tag : Text) : Kind → Subtype → Prop
  | plain {k : Kind} (plain : IsPlainTag tag k) : IsReferenceTag tag k .raw
  | typed {k : Kind} {s : Subtype} (allowed : Allowed k s) (typed : IsTypedTag tag k s.tag) :
      IsReferenceTag tag k s

/-- What the grammar says of a line. -/
inductive Reads (line : Text) : Except Error Line → Prop
  | unseparated (none : ∀ before after, line ≠ before ++ separator ++ after) :
      Reads line (.error (.missingSeparator line))
  | literal {before content : Text} {k : Kind} (cut : CutAt separator line before content)
      (tag : SameLetters (Text.trim before) k.tag) :
      Reads line (.ok (.literal ⟨k, .raw, none, content, none⟩))
  | reference {before content : Text} {k : Kind} {s : Subtype}
      (cut : CutAt separator line before content) (tag : IsReferenceTag (Text.trim before) k s)
      (path : ¬ Text.isBlankText content = true) :
      Reads line (.ok (.reference ⟨k, s, .ofText (Text.trim content)⟩))
  | emptyPath {before content : Text} {k : Kind} {s : Subtype}
      (cut : CutAt separator line before content) (tag : IsReferenceTag (Text.trim before) k s)
      (blank : Text.isBlankText content = true) :
      Reads line (.error (.emptyPath (Text.trim before)))
  | unknownSubtype {before content subtype : Text} {k : Kind}
      (cut : CutAt separator line before content) (tag : IsTypedTag (Text.trim before) k subtype)
      (unknown : ∀ s, Allowed k s → ¬ SameLetters subtype s.tag) :
      Reads line (.error (.unknownSubtype (Text.trim before) (Text.lowerAscii subtype)))
  | unknownKind {before content : Text} (cut : CutAt separator line before content)
      (noLiteral : ∀ k : Kind, ¬ SameLetters (Text.trim before) k.tag)
      (noPlain : ∀ k, ¬ IsPlainTag (Text.trim before) k)
      (noTyped : ∀ k subtype, ¬ IsTypedTag (Text.trim before) k subtype) :
      Reads line (.error (.unknownKind (Text.trim before)))

theorem ofTag?_eq_some_iff {tag : Text} {k : Kind} : Kind.ofTag? tag = some k ↔ tag = k.tag := by
  constructor
  · intro h
    have hk : (k.tag == tag) = true := List.find?_some (p := fun k : Kind => k.tag == tag) h
    exact (beq_iff_eq.mp hk).symm
  · rintro rfl
    cases k <;> decide

theorem subtype_ofTag?_eq_some_iff {tag : Text} {s : Subtype} :
    Subtype.ofTag? tag = some s ↔ Text.lowerAscii tag = s.tag := by
  constructor
  · intro h
    have hs : (s.tag == Text.lowerAscii tag) = true :=
      List.find?_some (p := fun s : Subtype => s.tag == Text.lowerAscii tag) h
    exact (beq_iff_eq.mp hs).symm
  · intro h
    rw [Subtype.ofTag?, h]
    cases s <;> decide

theorem fileKind?_eq_some_iff {tag : Text} {k : Kind} :
    fileKind? tag = some k ↔ (k = .sql ∨ k = .api) ∧ tag = k.tag := by
  rw [fileKind?]
  constructor
  · intro h
    split at h
    · rename_i hk
      cases h
      exact ⟨.inl rfl, ofTag?_eq_some_iff.mp hk⟩
    · rename_i hk
      cases h
      exact ⟨.inr rfl, ofTag?_eq_some_iff.mp hk⟩
    · cases h
  · rintro ⟨rfl | rfl, rfl⟩ <;> decide

theorem upperAscii_tag (k : Kind) : Text.upperAscii k.tag = k.tag := by
  cases k <;> decide

theorem upperAscii_fileMark : Text.upperAscii fileMark = fileMark := by decide

theorem sameLetters_subtype_iff {t : Text} {s : Subtype} :
    SameLetters t s.tag ↔ Text.lowerAscii t = s.tag := by
  have hs : Text.lowerAscii s.tag = s.tag := by cases s <;> decide
  rw [SameLetters, hs]

theorem allowed_iff {k : Kind} {s : Subtype} (file : k = .sql ∨ k = .api) :
    Allowed k s ↔ admits k s = true := by
  rcases file with rfl | rfl
  · exact iff_of_true (.sql s) rfl
  · constructor
    · intro h
      cases h
      rfl
    · intro h
      cases s with
      | raw => exact .api
      | report | filter | script => cases h

/-! ## Capitals

The code reads a tag by its capitals.
-/

theorem isPlainTag_iff {tag : Text} {k : Kind} :
    IsPlainTag tag k ↔ (k = .sql ∨ k = .api) ∧ Text.upperAscii tag = fileMark ++ k.tag := by
  have h : Text.upperAscii (fileMark ++ k.tag) = fileMark ++ k.tag := by
    rw [Text.upperAscii_append, upperAscii_fileMark, upperAscii_tag]
  rw [IsPlainTag, sameLetters_iff_of_capitals h]

theorem upperAscii_typed (k : Kind) (subtype : Text) :
    Text.upperAscii (fileMark ++ (k.tag ++ '/' :: subtype)) =
      fileMark ++ (k.tag ++ '/' :: Text.upperAscii subtype) := by
  have hslash : Char.toUpper '/' = '/' := by decide
  rw [Text.upperAscii_append, Text.upperAscii_append, Text.upperAscii_cons, upperAscii_fileMark,
    upperAscii_tag, hslash]

theorem isTypedTag_iff {tag subtype : Text} {k : Kind} :
    IsTypedTag tag k subtype ↔ (k = .sql ∨ k = .api) ∧
      Text.upperAscii tag = fileMark ++ (k.tag ++ '/' :: Text.upperAscii subtype) := by
  rw [IsTypedTag, sameLetters_iff, List.append_assoc, upperAscii_typed]

theorem IsTypedTag.of_sameLetters {tag subtype other : Text} {k : Kind}
    (h : IsTypedTag tag k subtype) (same : SameLetters subtype other) : IsTypedTag tag k other := by
  rw [isTypedTag_iff, ← sameLetters_iff.mp same]
  exact isTypedTag_iff.mp h

theorem slash_not_mem_tag {k : Kind} (file : k = .sql ∨ k = .api) : '/' ∉ k.tag := by
  rcases file with rfl | rfl <;> decide

theorem parse_of_cut {line before content : Text} (cut : CutAt separator line before content) :
    parse line =
      match Text.after? fileMark (Text.upperAscii (Text.trim before)) with
      | some rest => (parseReference (Text.trim before) rest content).map .reference
      | none =>
        match Kind.ofTag? (Text.upperAscii (Text.trim before)) with
        | some kind => .ok (.literal (.literal kind content))
        | none => .error (.unknownKind (Text.trim before)) := by
  have hcut := Text.splitOnce?_eq_some_iff.mpr cut
  unfold parse
  exact hcut ▸ rfl

/-- Without a subtype a reference is raw. It lacks nothing but, perhaps, a path. -/
theorem parseReference_plain (tag content : Text) {k : Kind} (file : k = .sql ∨ k = .api) :
    parseReference tag k.tag content =
      if Text.isBlankText content = true then .error (.emptyPath tag)
      else .ok ⟨k, .raw, .ofText (Text.trim content)⟩ := by
  simp only [parseReference, Text.splitOnce?_eq_none_of_not_mem (slash_not_mem_tag file),
    fileKind?_eq_some_iff.mpr ⟨file, rfl⟩]
  split
  · rename_i hpath
    rw [if_pos (Text.trim_eq_nil_iff.mp hpath)]
  · rename_i hpath
    rw [if_neg (fun hblank => hpath (Text.trim_eq_nil_iff.mpr hblank))]

theorem parseReference_typed (tag content subtype : Text) {k : Kind} (file : k = .sql ∨ k = .api) :
    parseReference tag (k.tag ++ '/' :: Text.upperAscii subtype) content =
      match (Subtype.ofTag? (Text.upperAscii subtype)).filter (admits k) with
      | none => .error (.unknownSubtype tag (Text.lowerAscii subtype))
      | some s =>
        if Text.isBlankText content = true then .error (.emptyPath tag)
        else .ok ⟨k, s, .ofText (Text.trim content)⟩ := by
  simp only [parseReference, Text.splitOnce?_of_not_mem (slash_not_mem_tag file),
    fileKind?_eq_some_iff.mpr ⟨file, rfl⟩, Option.getD_some, Text.lowerAscii_upperAscii]
  cases (Subtype.ofTag? (Text.upperAscii subtype)).filter (admits k) with
  | none => rfl
  | some s =>
    simp only
    split
    · rename_i hpath
      rw [if_pos (Text.trim_eq_nil_iff.mp hpath)]
    · rename_i hpath
      rw [if_neg (fun hblank => hpath (Text.trim_eq_nil_iff.mpr hblank))]

theorem parse_of_referenceTag {line before content : Text} {k : Kind} {s : Subtype}
    (cut : CutAt separator line before content) (tag : IsReferenceTag (Text.trim before) k s) :
    parse line =
      if Text.isBlankText content = true then .error (.emptyPath (Text.trim before))
      else .ok (.reference ⟨k, s, .ofText (Text.trim content)⟩) := by
  cases tag with
  | plain plain =>
    obtain ⟨file, hcapitals⟩ := isPlainTag_iff.mp plain
    rw [parse_of_cut cut, Text.after?_eq_some_iff.mpr hcapitals]
    simp only [parseReference_plain _ _ file]
    split <;> rfl
  | typed allowed typed =>
    obtain ⟨file, hcapitals⟩ := isTypedTag_iff.mp typed
    have hsubtype : (Subtype.ofTag? (Text.upperAscii s.tag)).filter (admits k) = some s := by
      rw [Option.filter_eq_some_iff, subtype_ofTag?_eq_some_iff, Text.lowerAscii_upperAscii]
      exact ⟨sameLetters_subtype_iff.mp rfl, (allowed_iff file).mp allowed⟩
    rw [parse_of_cut cut, Text.after?_eq_some_iff.mpr hcapitals]
    simp only [parseReference_typed _ _ _ file, hsubtype]
    split <;> rfl

theorem parse_of_unknownSubtype {line before content subtype : Text} {k : Kind}
    (cut : CutAt separator line before content) (tag : IsTypedTag (Text.trim before) k subtype)
    (unknown : ∀ s, Allowed k s → ¬ SameLetters subtype s.tag) :
    parse line = .error (.unknownSubtype (Text.trim before) (Text.lowerAscii subtype)) := by
  obtain ⟨file, hcapitals⟩ := isTypedTag_iff.mp tag
  have hsubtype : (Subtype.ofTag? (Text.upperAscii subtype)).filter (admits k) = none := by
    rw [Option.filter_eq_none_iff]
    intro s hs hadmits
    rw [subtype_ofTag?_eq_some_iff, Text.lowerAscii_upperAscii] at hs
    exact unknown s ((allowed_iff file).mpr hadmits) (sameLetters_subtype_iff.mpr hs)
  rw [parse_of_cut cut, Text.after?_eq_some_iff.mpr hcapitals]
  simp only [parseReference_typed _ _ _ file, hsubtype]
  rfl

theorem parse_of_literalTag {line before content : Text} {k : Kind}
    (cut : CutAt separator line before content) (tag : SameLetters (Text.trim before) k.tag) :
    parse line = .ok (.literal ⟨k, .raw, none, content, none⟩) := by
  have hcapitals : Text.upperAscii (Text.trim before) = k.tag :=
    (sameLetters_iff_of_capitals (upperAscii_tag k)).mp tag
  have hfile : Text.after? fileMark k.tag = none := by
    cases k <;> decide
  rw [parse_of_cut cut, hcapitals, hfile]
  simp only [ofTag?_eq_some_iff.mpr rfl]
  rfl

theorem parse_of_otherTag {line before content : Text} (cut : CutAt separator line before content)
    (noLiteral : ∀ k : Kind, ¬ SameLetters (Text.trim before) k.tag)
    (noPlain : ∀ k, ¬ IsPlainTag (Text.trim before) k)
    (noTyped : ∀ k subtype, ¬ IsTypedTag (Text.trim before) k subtype) :
    parse line = .error (.unknownKind (Text.trim before)) := by
  rw [parse_of_cut cut]
  cases hafter : Text.after? fileMark (Text.upperAscii (Text.trim before)) with
  | none =>
    cases hk : Kind.ofTag? (Text.upperAscii (Text.trim before)) with
    | none => rfl
    | some k =>
      refine absurd ?_ (noLiteral k)
      rw [sameLetters_iff_of_capitals (upperAscii_tag k)]
      exact ofTag?_eq_some_iff.mp hk
  | some rest =>
    have hcapitals := Text.after?_eq_some_iff.mp hafter
    cases hsplit : Text.splitOnce? ['/'] rest with
    | none =>
      cases hk : fileKind? rest with
      | none =>
        simp only [parseReference, hsplit, hk]
        rfl
      | some k =>
        obtain ⟨file, rfl⟩ := fileKind?_eq_some_iff.mp hk
        exact absurd (isPlainTag_iff.mpr ⟨file, hcapitals⟩) (noPlain k)
    | some p =>
      obtain ⟨kindTag, subtype⟩ := p
      cases hk : fileKind? kindTag with
      | none =>
        simp only [parseReference, hsplit, hk]
        rfl
      | some k =>
        obtain ⟨file, rfl⟩ := fileKind?_eq_some_iff.mp hk
        have hrest : rest = k.tag ++ '/' :: subtype := by
          simpa using Text.eq_append_of_splitOnce? hsplit
        -- The subtype was cut from capitals, so it is in capitals itself.
        have hsubtype : Text.upperAscii subtype = subtype := by
          have h := congrArg Text.upperAscii hcapitals
          rw [Text.upperAscii_upperAscii, hcapitals, hrest, upperAscii_typed] at h
          have htail := List.append_cancel_left (List.append_cancel_left h)
          exact (List.cons.inj htail).2.symm
        refine absurd (isTypedTag_iff.mpr ⟨file, ?_⟩) (noTyped k subtype)
        rw [hcapitals, hrest, hsubtype]

theorem parse_of_reads {line : Text} {r : Except Error Line} (h : Reads line r) :
    parse line = r := by
  cases h with
  | unseparated none => simp only [parse, Text.splitOnce?_eq_none_iff.mpr none]
  | literal cut tag => exact parse_of_literalTag cut tag
  | reference cut tag path => rw [parse_of_referenceTag cut tag, if_neg path]
  | emptyPath cut tag blank => rw [parse_of_referenceTag cut tag, if_pos blank]
  | unknownSubtype cut tag unknown => exact parse_of_unknownSubtype cut tag unknown
  | unknownKind cut noLiteral noPlain noTyped =>
    exact parse_of_otherTag cut noLiteral noPlain noTyped

/-- The grammar says something of every line. -/
theorem exists_reads (line : Text) : ∃ r, Reads line r := by
  cases hcut : Text.splitOnce? separator line with
  | none => exact ⟨_, .unseparated (Text.splitOnce?_eq_none_iff.mp hcut)⟩
  | some p =>
    obtain ⟨before, content⟩ := p
    have cut : CutAt separator line before content := Text.splitOnce?_eq_some_iff.mp hcut
    by_cases hliteral : ∃ k : Kind, SameLetters (Text.trim before) k.tag
    · obtain ⟨k, tag⟩ := hliteral
      exact ⟨_, .literal cut tag⟩
    by_cases hreference : ∃ k s, IsReferenceTag (Text.trim before) k s
    · obtain ⟨k, s, tag⟩ := hreference
      by_cases hblank : Text.isBlankText content = true
      · exact ⟨_, .emptyPath cut tag hblank⟩
      · exact ⟨_, .reference cut tag hblank⟩
    by_cases htyped : ∃ k subtype, IsTypedTag (Text.trim before) k subtype
    · obtain ⟨k, subtype, tag⟩ := htyped
      refine ⟨_, .unknownSubtype cut tag fun s allowed same => hreference ⟨k, s, ?_⟩⟩
      exact .typed allowed (tag.of_sameLetters same)
    · refine ⟨_, .unknownKind cut (fun k tag => hliteral ⟨k, tag⟩) (fun k plain => ?_)
        fun k subtype tag => htyped ⟨k, subtype, tag⟩⟩
      exact hreference ⟨k, .raw, .plain plain⟩

/-- A line is read as the grammar says, and in no other way. -/
theorem parse_eq_iff_reads (line : Text) (r : Except Error Line) :
    parse line = r ↔ Reads line r := by
  constructor
  · intro h
    obtain ⟨r', hr'⟩ := exists_reads line
    rw [← h, parse_of_reads hr']
    exact hr'
  · exact parse_of_reads

/-! ## What is read -/

theorem reads_of_parse {line : Text} {r : Except Error Line} (h : parse line = r) :
    Reads line r := by
  obtain ⟨r', hr'⟩ := exists_reads line
  rw [← h, parse_of_reads hr']
  exact hr'

theorem IsReferenceTag.allowed {tag : Text} {k : Kind} {s : Subtype}
    (h : IsReferenceTag tag k s) : Allowed k s := by
  cases h with
  | plain plain =>
    rcases plain.1 with rfl | rfl
    · exact .sql _
    · exact .api
  | typed allowed => exact allowed

theorem allowed_of_parse {line : Text} {r : Reference}
    (h : parse line = .ok (.reference r)) : Allowed r.kind r.subtype := by
  cases reads_of_parse h with
  | reference _ tag _ => exact tag.allowed

theorem literal_of_parse {line : Text} {d : Directive}
    (h : parse line = .ok (.literal d)) :
    ∃ kind before content, d = .literal kind content ∧ line = before ++ separator ++ content := by
  cases reads_of_parse h with
  | literal cut _ => exact ⟨_, _, _, rfl, cut.eq⟩

end Line

end Runbook
