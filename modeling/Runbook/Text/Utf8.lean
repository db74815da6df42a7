import Runbook.Text.Basic

/-! # UTF-8

Texts as bytes, and bytes read back one at a time. Bytes that are no text are read in parts: every
longest run of bytes that begins a character without completing it is one malformed part, and so is
every byte that begins none. A lenient reader shows each malformed part as U+FFFD.
-/
namespace Runbook.Text

abbrev Bytes := List UInt8

def encode (t : Text) : Bytes := t.flatMap String.utf8EncodeChar

/-- A character whose first bytes are read: how many are owed, the bounds of the next one, and the
bits so far. -/
structure Unfinished where
  owed : Nat
  low : UInt8
  high : UInt8
  bits : Nat
  deriving DecidableEq, Repr

inductive Lead where
  | char (c : Char)
  | more (u : Unfinished)
  | malformed
  deriving DecidableEq, Repr

def lead (b : UInt8) : Lead :=
  let bits := b.toNat
  if b < 0x80 then .char (Char.ofNat bits)
  else if 0xC2 ≤ b && b ≤ 0xDF then .more ⟨1, 0x80, 0xBF, bits % 32⟩
  else if b == 0xE0 then .more ⟨2, 0xA0, 0xBF, bits % 16⟩
  else if b == 0xED then .more ⟨2, 0x80, 0x9F, bits % 16⟩
  else if 0xE1 ≤ b && b ≤ 0xEF then .more ⟨2, 0x80, 0xBF, bits % 16⟩
  else if b == 0xF0 then .more ⟨3, 0x90, 0xBF, bits % 8⟩
  else if 0xF1 ≤ b && b ≤ 0xF3 then .more ⟨3, 0x80, 0xBF, bits % 8⟩
  else if b == 0xF4 then .more ⟨3, 0x80, 0x8F, bits % 8⟩
  else .malformed

def Unfinished.extend (u : Unfinished) (b : UInt8) : Lead :=
  let bits := u.bits * 64 + b.toNat % 64
  if u.owed ≤ 1 then .char (Char.ofNat bits) else .more ⟨u.owed - 1, 0x80, 0xBF, bits⟩

/-- The characters of a byte sequence, with `none` for each malformed part. -/
def partsFrom : Option Unfinished → Bytes → List (Option Char)
  | none, [] => []
  | some _, [] => [none]
  | pending, b :: r =>
    match pending with
    | some u =>
      if u.low ≤ b && b ≤ u.high then
        match u.extend b with
        | .char c => some c :: partsFrom none r
        | .more u => partsFrom (some u) r
        | .malformed => none :: partsFrom none r
      else
        none :: match lead b with
          | .char c => some c :: partsFrom none r
          | .more u => partsFrom (some u) r
          | .malformed => none :: partsFrom none r
    | none =>
      match lead b with
      | .char c => some c :: partsFrom none r
      | .more u => partsFrom (some u) r
      | .malformed => none :: partsFrom none r

def parts (b : Bytes) : List (Option Char) := partsFrom none b

def decode? (b : Bytes) : Option Text := (parts b).mapM id

/-- The bytes as a text, with U+FFFD in place of each malformed part. -/
def decodeLossy (b : Bytes) : Text := (parts b).map fun c => c.getD '\uFFFD'

end Runbook.Text
