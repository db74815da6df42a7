import Runbook.Json.Printer
import Runbook.Json.Reader

/-! # Strings in JSON text

Every character of a string is written so that one round of the reader gives it back, and nothing
that is written is a control character.
-/
namespace Runbook.Json

def Printable (t : Text) : Prop := ∀ c ∈ t, 0x20 ≤ c.toNat

instance (t : Text) : Decidable (Printable t) :=
  List.decidableBAll (fun c : Char => 0x20 ≤ c.toNat) t

theorem Printable.append {s t : Text} (hs : Printable s) (ht : Printable t) : Printable (s ++ t) :=
  List.forall_mem_append.mpr ⟨hs, ht⟩

theorem Printable.cons {c : Char} {t : Text} (hc : 0x20 ≤ c.toNat) (ht : Printable t) :
    Printable (c :: t) :=
  List.forall_mem_cons.mpr ⟨hc, ht⟩

theorem printable_nil : Printable [] := List.forall_mem_nil _

/-! ## Escapes -/

theorem hexFour?_hexDigits : ∀ n < 32,
    hexFour? '0' '0' (hexDigit (n / 16)) (hexDigit n) = some n := by decide

theorem hexDigits_printable : ∀ n < 32,
    0x20 ≤ (hexDigit (n / 16)).toNat ∧ 0x20 ≤ (hexDigit n).toNat := by decide

theorem unescape?_shortEscape {c letter : Char} (h : shortEscape? c = some letter) :
    unescape? letter = some c ∧ letter ≠ 'u' ∧ 0x20 ≤ letter.toNat := by
  unfold shortEscape? at h
  split at h <;> cases h <;> decide

theorem length_le_length_encode (t : Text) : t.length ≤ (Text.encode t).length := by
  induction t with
  | nil => exact Nat.zero_le _
  | cons c t ih =>
    have hpos : 0 < (String.utf8EncodeChar c).length := by
      rw [String.length_utf8EncodeChar]
      exact c.utf8Size_pos
    have hcons : Text.encode (c :: t) = String.utf8EncodeChar c ++ Text.encode t :=
      List.flatMap_cons
    rw [hcons, List.length_append, List.length_cons]
    omega

theorem readUnicode_control {c : Char} (hc : c.toNat < 0x20) (rest : Text) :
    readUnicode ('0' :: '0' :: hexDigit (c.toNat / 16) :: hexDigit c.toNat :: rest) =
      .ok (c, rest) := by
  have hlength := length_le_length_encode
    ('0' :: '0' :: hexDigit (c.toNat / 16) :: hexDigit c.toNat :: rest)
  have hlong : ¬ (Text.encode
      ('0' :: '0' :: hexDigit (c.toNat / 16) :: hexDigit c.toNat :: rest)).length < 4 := by
    simp only [List.length_cons] at hlength
    omega
  have hread : readHex ('0' :: '0' :: hexDigit (c.toNat / 16) :: hexDigit c.toNat :: rest) =
      .ok (c.toNat, rest) := by
    rw [readHex, if_neg hlong]
    simp only [hexFour?_hexDigits c.toNat hc]
  have hsurrogate : ¬ (0xDC00 ≤ c.toNat ∧ c.toNat ≤ 0xDFFF) := by omega
  rw [readUnicode, hread]
  simp only [if_neg hsurrogate]
  rw [if_pos (by omega), Char.ofNat_toNat]

theorem escapeChar_control {c : Char} (hquote : c ≠ '"') (hbackslash : c ≠ '\\')
    (hc : c.toNat < 0x20) :
    (∃ letter, shortEscape? c = some letter ∧ escapeChar c = ['\\', letter]) ∨
      escapeChar c =
        '\\' :: 'u' :: '0' :: '0' :: hexDigit (c.toNat / 16) :: [hexDigit c.toNat] := by
  rw [escapeChar, if_neg hquote, if_neg hbackslash, if_pos hc]
  cases hs : shortEscape? c with
  | some letter => exact .inl ⟨letter, rfl, rfl⟩
  | none => exact .inr rfl

theorem escapeChar_plain {c : Char} (hquote : c ≠ '"') (hbackslash : c ≠ '\\')
    (hc : ¬ c.toNat < 0x20) : escapeChar c = [c] := by
  rw [escapeChar, if_neg hquote, if_neg hbackslash, if_neg hc]

/-- One round of the reader gives back one character. -/
theorem readString_escapeChar (fuel : Nat) (done : Text) (c : Char) (rest : Text) :
    readString (fuel + 1) done (escapeChar c ++ rest) = readString fuel (c :: done) rest := by
  by_cases hquote : c = '"'
  · subst hquote
    rfl
  by_cases hbackslash : c = '\\'
  · subst hbackslash
    rfl
  by_cases hc : c.toNat < 0x20
  · rcases escapeChar_control hquote hbackslash hc with ⟨letter, hs, he⟩ | he
    · obtain ⟨hletter, hu, -⟩ := unescape?_shortEscape hs
      rw [he]
      simp [readString, hletter]
    · rw [he]
      simp only [List.cons_append, List.nil_append]
      rw [readString]
      simp [readUnicode_control hc]
  · rw [escapeChar_plain hquote hbackslash hc]
    simp [readString, hquote, hbackslash, hc]

theorem escapeChar_printable (c : Char) : Printable (escapeChar c) := by
  by_cases hquote : c = '"'
  · subst hquote
    decide
  by_cases hbackslash : c = '\\'
  · subst hbackslash
    decide
  by_cases hc : c.toNat < 0x20
  · rcases escapeChar_control hquote hbackslash hc with ⟨letter, hs, he⟩ | he
    · obtain ⟨-, -, hletter⟩ := unescape?_shortEscape hs
      rw [he]
      exact .cons (by decide) (.cons hletter printable_nil)
    · obtain ⟨hhigh, hlow⟩ := hexDigits_printable c.toNat hc
      rw [he]
      exact .cons (by decide) (.cons (by decide) (.cons (by decide) (.cons (by decide)
        (.cons hhigh (.cons hlow printable_nil)))))
  · rw [escapeChar_plain hquote hbackslash hc]
    exact .cons (by omega) printable_nil

/-! ## Whole strings -/

theorem readString_flatMap {t : Text} {fuel : Nat} (enough : t.length < fuel) (done rest : Text) :
    readString fuel done (t.flatMap escapeChar ++ '"' :: rest) = .ok (done.reverse ++ t, rest) := by
  induction t generalizing fuel done with
  | nil =>
    obtain ⟨fuel, rfl⟩ := Nat.exists_eq_add_one_of_ne_zero (Nat.ne_zero_of_lt enough)
    simp [readString]
  | cons c t ih =>
    obtain ⟨fuel, rfl⟩ := Nat.exists_eq_add_one_of_ne_zero (Nat.ne_zero_of_lt enough)
    have henough : t.length < fuel := by simpa using enough
    rw [List.flatMap_cons, List.append_assoc, readString_escapeChar, ih henough]
    simp

theorem escapeChar_ne_nil (c : Char) : escapeChar c ≠ [] := by
  rw [escapeChar]
  repeat' split
  all_goals simp

theorem length_le_length_escaped (t : Text) : t.length ≤ (t.flatMap escapeChar).length := by
  induction t with
  | nil => exact Nat.zero_le _
  | cons c t ih =>
    have hpos := List.length_pos_iff.mpr (escapeChar_ne_nil c)
    rw [List.flatMap_cons, List.length_append, List.length_cons]
    omega

theorem readString_quoted (t rest : Text) :
    readString ((t.flatMap escapeChar ++ '"' :: rest).length + 1) []
      (t.flatMap escapeChar ++ '"' :: rest) = .ok (t, rest) := by
  have hlength := length_le_length_escaped t
  have henough : t.length < (t.flatMap escapeChar ++ '"' :: rest).length + 1 := by
    rw [List.length_append]
    omega
  have h := readString_flatMap henough [] rest
  simpa using h

theorem quoted_printable (t : Text) : Printable (quoted t) := by
  have hescaped : Printable (t.flatMap escapeChar) := by
    intro d hd
    obtain ⟨c, -, hdc⟩ := List.mem_flatMap.mp hd
    exact escapeChar_printable c d hdc
  exact (hescaped.cons (by decide)).append (printable_nil.cons (by decide))

end Runbook.Json
