import Runbook.Json.Basic
import Runbook.Text.Utf8

/-! # Reading JSON text

The reader works on the characters that are still to be read, and a failure keeps those it was left
with; where that is, as a line and a column counted in bytes, is worked out from the whole text.

Whole numbers of at most 64 bits are exact. Any other number is read as a significand of at most 64
bits, further digits being dropped, which is then multiplied or divided by a power of ten; each of
these steps rounds once.
-/
namespace Runbook.Json

inductive Fault where
  | endInArray
  | endInObject
  | endInString
  | endInValue
  | expectedColon
  | expectedCommaOrBracket
  | expectedCommaOrBrace
  | expectedWord
  | expectedValue
  | invalidEscape
  | invalidNumber
  | outOfRange
  | controlCharacter
  | nameNotString
  | loneSurrogate
  | trailingComma
  | trailingCharacters
  | unfinishedSurrogate
  | tooDeep
  deriving DecidableEq, Repr

def Fault.message : Fault → Text
  | .endInArray => "EOF while parsing a list".toList
  | .endInObject => "EOF while parsing an object".toList
  | .endInString => "EOF while parsing a string".toList
  | .endInValue => "EOF while parsing a value".toList
  | .expectedColon => "expected \x60:\x60".toList
  | .expectedCommaOrBracket => "expected \x60,\x60 or \x60]\x60".toList
  | .expectedCommaOrBrace => "expected \x60,\x60 or \x60\x7d\x60".toList
  | .expectedWord => "expected ident".toList
  | .expectedValue => "expected value".toList
  | .invalidEscape => "invalid escape".toList
  | .invalidNumber => "invalid number".toList
  | .outOfRange => "number out of range".toList
  | .controlCharacter =>
    "control character (\\u0000-\\u001F) found while parsing a string".toList
  | .nameNotString => "key must be a string".toList
  | .loneSurrogate => "lone leading surrogate in hex escape".toList
  | .trailingComma => "trailing comma".toList
  | .trailingCharacters => "trailing characters".toList
  | .unfinishedSurrogate => "unexpected end of hex escape".toList
  | .tooDeep => "recursion limit exceeded".toList

/-- A fault, the text that was left to read, and how many bytes of it count as read. -/
structure Failure where
  fault : Fault
  rest : Text
  ahead : Nat
  deriving DecidableEq, Repr

structure ReadError where
  fault : Fault
  line : Nat
  column : Nat
  deriving DecidableEq, Repr

def ReadError.message (e : ReadError) : Text :=
  e.fault.message ++ " at line ".toList ++ Text.ofNat e.line ++ " column ".toList ++
    Text.ofNat e.column

def Failure.locate (f : Failure) (whole : Text) : ReadError :=
  let bytes := Text.encode whole
  let read := bytes.take (bytes.length - (Text.encode f.rest).length + f.ahead)
  ⟨f.fault, read.count 10 + 1, (read.reverse.takeWhile (· != 10)).length⟩

abbrev Read (α : Type) := Except Failure (α × Text)

/-- A fault at the next character, which is not read. -/
def stop {α : Type} (fault : Fault) (rest : Text) : Except Failure α := .error ⟨fault, rest, 0⟩

/-- A fault that counts the next byte as read, if there is one. -/
def stopAfterByte {α : Type} (fault : Fault) (rest : Text) : Except Failure α :=
  .error ⟨fault, rest, 1⟩

def isSpace (c : Char) : Bool := c == ' ' || c == '\n' || c == '\t' || c == '\r'

def skipSpace (t : Text) : Text := t.dropWhile isSpace

def readWord (value : Json) : Text → Text → Read Json
  | [], t => .ok (value, t)
  | _ :: _, [] => stop .endInValue []
  | w :: word, c :: t =>
    if w = c then readWord value word t else stopAfterByte .expectedWord (c :: t)

/-! ## Strings -/

def hexValue? (c : Char) : Option Nat :=
  if c.isDigit then some (c.toNat - '0'.toNat)
  else if 'a' ≤ c ∧ c ≤ 'f' then some (c.toNat - 'a'.toNat + 10)
  else if 'A' ≤ c ∧ c ≤ 'F' then some (c.toNat - 'A'.toNat + 10)
  else none

def hexFour? (a b c d : Char) : Option Nat := do
  let a ← hexValue? a
  let b ← hexValue? b
  let c ← hexValue? c
  let d ← hexValue? d
  some (((a * 16 + b) * 16 + c) * 16 + d)

/-- The four hexadecimal digits of an escape: their value and what follows them. Four bytes that
are not digits are read all the same; fewer than four end the text. -/
def readHex (t : Text) : Read Nat :=
  if (Text.encode t).length < 4 then stop .endInString []
  else
    match t with
    | a :: b :: c :: d :: rest =>
      match hexFour? a b c d with
      | some n => .ok (n, rest)
      | none => .error ⟨.invalidEscape, t, 4⟩
    | _ => .error ⟨.invalidEscape, t, 4⟩

/-- The character of an escape `\u`, whose first letter is read. Two escapes are needed for a
character beyond U+FFFF: the first in D800 to DBFF, the second in DC00 to DFFF. -/
def readUnicode (t : Text) : Read Char :=
  match readHex t with
  | .error f => .error f
  | .ok (n, rest) =>
    if 0xDC00 ≤ n ∧ n ≤ 0xDFFF then stop .loneSurrogate rest
    else if n < 0xD800 ∨ 0xDBFF < n then .ok (Char.ofNat n, rest)
    else
      match rest with
      | [] => stop .endInString []
      | '\\' :: [] => stop .endInString []
      | '\\' :: 'u' :: rest =>
        match readHex rest with
        | .error f => .error f
        | .ok (m, rest) =>
          if 0xDC00 ≤ m ∧ m ≤ 0xDFFF then
            .ok (Char.ofNat ((n - 0xD800) * 0x400 + (m - 0xDC00) + 0x10000), rest)
          else stop .loneSurrogate rest
      | '\\' :: rest => stopAfterByte .unfinishedSurrogate rest
      | rest => stopAfterByte .unfinishedSurrogate rest

def unescape? (c : Char) : Option Char :=
  match c with
  | '"' => some '"'
  | '\\' => some '\\'
  | '/' => some '/'
  | 'b' => some '\x08'
  | 'f' => some '\x0c'
  | 'n' => some '\n'
  | 'r' => some '\r'
  | 't' => some '\t'
  | _ => none

/-- The rest of a string whose opening quote is read; `done` is what precedes, reversed. Every
round reads at least one character. -/
def readString : Nat → Text → Text → Read Text
  | _, _, [] => stop .endInString []
  | 0, _, t => stop .endInString t
  | fuel + 1, done, c :: t =>
    if c = '"' then .ok (done.reverse, t)
    else if c = '\\' then
      match t with
      | [] => stop .endInString []
      | 'u' :: t =>
        match readUnicode t with
        | .ok (d, rest) => readString fuel (d :: done) rest
        | .error f => .error f
      | d :: t =>
        match unescape? d with
        | some e => readString fuel (e :: done) t
        | none => stopAfterByte .invalidEscape (d :: t)
    else if c.toNat < 0x20 then stop .controlCharacter t
    else readString fuel (c :: done) t

/-! ## Numbers -/

def wordMax : Nat := Nat.pow 2 64 - 1

/-- Appends digits to a significand as long as it stays within 64 bits; the others are left. -/
def absorb (n : Nat) : Text → Nat × Text
  | [] => (n, [])
  | c :: t =>
    let m := n * 10 + (c.toNat - '0'.toNat)
    if m ≤ wordMax then absorb m t else (n, c :: t)

def powerOfTen (k : Nat) : Decimal.Binary64 :=
  (Decimal.Binary64.ofDecimal? false 1 k).getD (.zero false)

/-- A significand times a power of ten: rounded to the format first, then multiplied or divided.
A power below 10^-308 takes more than one division. -/
def scaled? : Nat → Decimal.Binary64 → Int → Option Decimal.Binary64
  | rounds, x, e =>
    if e.natAbs ≤ 308 then
      if 0 ≤ e then x.mul? (powerOfTen e.natAbs) else x.div? (powerOfTen e.natAbs)
    else if x.isZero then some x
    else if 0 ≤ e then none
    else match rounds with
      | 0 => some (.zero false)
      | rounds + 1 => match x.div? (powerOfTen 308) with
        | some y => scaled? rounds y (e + 308)
        | none => none

def real? (negative : Bool) (significand : Nat) (e : Int) : Option Json :=
  match Decimal.Binary64.nearest? false significand 1 with
  | none => none
  | some x => (scaled? 4 x e).map fun y => .number (.real { y with negative := negative })

def readReal (negative : Bool) (significand : Nat) (e : Int) (rest : Text) : Read Json :=
  match real? negative significand e with
  | some v => .ok (v, rest)
  | none => stop .outOfRange rest

def exponentMax : Nat := Nat.pow 2 31 - 1

/-- Appends digits to a power of ten as long as it stays within the limit; otherwise `none`, with
what follows the digit that exceeds it. -/
def absorbExponent (n : Nat) : Text → Option Nat × Text
  | [] => (some n, [])
  | c :: t =>
    let m := n * 10 + (c.toNat - '0'.toNat)
    if m ≤ exponentMax then absorbExponent m t else (none, t)

def clampExponent (e : Int) : Int :=
  max (-(exponentMax : Int) - 1) (min (exponentMax : Int) e)

def exponentSign (t : Text) : Bool × Text :=
  match t with
  | '+' :: t => (false, t)
  | '-' :: t => (true, t)
  | t => (false, t)

def readExponentDigits (negative : Bool) (significand : Nat) (start : Int) (down : Bool)
    (t : Text) : Read Json :=
  match t with
  | [] => stop .endInValue []
  | c :: _ =>
    if !c.isDigit then stopAfterByte .invalidNumber t
    else
      let digits := t.takeWhile Char.isDigit
      let rest := t.dropWhile Char.isDigit
      match absorbExponent 0 digits with
      | (some e, _) =>
        readReal negative significand
          (clampExponent (if down then start - e else start + e)) rest
      | (none, left) =>
        if significand ≠ 0 ∧ !down then stop .outOfRange (left ++ rest)
        else .ok (.number (.real (.zero negative)), rest)

def readExponent (negative : Bool) (significand : Nat) (start : Int) (t : Text) : Read Json :=
  let (down, t) := exponentSign t
  readExponentDigits negative significand start down t

def readFraction (negative : Bool) (significand : Nat) (start : Int) (t : Text) : Read Json :=
  let digits := t.takeWhile Char.isDigit
  let rest := t.dropWhile Char.isDigit
  if digits = [] then
    if rest = [] then stop .endInValue [] else stopAfterByte .invalidNumber rest
  else
    let (n, left) := absorb significand digits
    let e := start - ((digits.length : Int) - left.length)
    match rest with
    | 'e' :: rest => readExponent negative n e rest
    | 'E' :: rest => readExponent negative n e rest
    | rest => readReal negative n e rest

def readWhole (negative : Bool) (significand dropped : Nat) (rest : Text) : Read Json :=
  if dropped ≠ 0 then readReal negative significand dropped rest
  else if !negative then .ok (.number (.whole significand), rest)
  else if significand = 0 ∨ Nat.pow 2 63 < significand then readReal true significand 0 rest
  else .ok (.number (.whole (-(significand : Int))), rest)

/-- What follows the digits before the decimal point; `dropped` of them were left out of the
significand. -/
def readTail (negative : Bool) (significand dropped : Nat) (rest : Text) : Read Json :=
  match rest with
  | '.' :: rest => readFraction negative significand dropped rest
  | 'e' :: rest => readExponent negative significand dropped rest
  | 'E' :: rest => readExponent negative significand dropped rest
  | rest => readWhole negative significand dropped rest

def readNumber (negative : Bool) (t : Text) : Read Json :=
  match t with
  | [] => stop .endInValue []
  | '0' :: rest =>
    match rest with
    | c :: _ =>
      if c.isDigit then stopAfterByte .invalidNumber rest else readTail negative 0 0 rest
    | [] => readTail negative 0 0 rest
  | c :: _ =>
    if !c.isDigit then stopAfterByte .invalidNumber t
    else
      let (n, left) := absorb 0 (t.takeWhile Char.isDigit)
      readTail negative n left.length (t.dropWhile Char.isDigit)

/-! ## Values -/

/-- Values may be nested this deep, less one. -/
def nestingLimit : Nat := 128

mutual

/-- A value. Every call of the three readers reads a character or is followed by one that does, so
twice the length of the text is fuel enough. -/
def readValue : Nat → Nat → Text → Read Json
  | 0, _, t => stop .endInValue t
  | fuel + 1, depth, t =>
    match skipSpace t with
    | [] => stopAfterByte .endInValue []
    | 'n' :: rest => readWord .null "ull".toList rest
    | 't' :: rest => readWord (.bool true) "rue".toList rest
    | 'f' :: rest => readWord (.bool false) "alse".toList rest
    | '-' :: rest => readNumber true rest
    | '"' :: rest =>
      match readString (rest.length + 1) [] rest with
      | .ok (s, rest) => .ok (.string s, rest)
      | .error f => .error f
    | '[' :: rest =>
      if depth ≤ 1 then stopAfterByte .tooDeep ('[' :: rest)
      else readItems fuel (depth - 1) true [] rest
    | '\x7b' :: rest =>
      if depth ≤ 1 then stopAfterByte .tooDeep ('\x7b' :: rest)
      else readMembers fuel (depth - 1) true [] rest
    | c :: rest =>
      if c.isDigit then readNumber false (c :: rest) else stopAfterByte .expectedValue (c :: rest)

def readItems : Nat → Nat → Bool → List Json → Text → Read Json
  | 0, _, _, _, t => stop .endInArray t
  | fuel + 1, depth, first, done, t =>
    let item (t : Text) : Read Json :=
      match readValue fuel depth t with
      | .ok (v, rest) => readItems fuel depth false (v :: done) rest
      | .error f => .error f
    match skipSpace t with
    | [] => stopAfterByte .endInArray []
    | ']' :: rest => .ok (.array done.reverse, rest)
    | c :: rest =>
      if first then item (c :: rest)
      else if c = ',' then
        match skipSpace rest with
        | [] => stopAfterByte .endInValue []
        | ']' :: rest => stopAfterByte .trailingComma (']' :: rest)
        | rest => item rest
      else stopAfterByte .expectedCommaOrBracket (c :: rest)

def readMembers : Nat → Nat → Bool → Members → Text → Read Json
  | 0, _, _, _, t => stop .endInObject t
  | fuel + 1, depth, first, done, t =>
    let member (t : Text) : Read Json :=
      match readString (t.length + 1) [] t with
      | .error f => .error f
      | .ok (name, rest) =>
        match skipSpace rest with
        | [] => stopAfterByte .endInObject []
        | ':' :: rest =>
          match readValue fuel depth rest with
          | .ok (v, rest) => readMembers fuel depth false (done.insert name v) rest
          | .error f => .error f
        | rest => stopAfterByte .expectedColon rest
    match skipSpace t with
    | [] => stopAfterByte .endInObject []
    | '\x7d' :: rest => .ok (.object done, rest)
    | c :: rest =>
      if first then
        if c = '"' then member rest else stopAfterByte .nameNotString (c :: rest)
      else if c = ',' then
        match skipSpace rest with
        | [] => stopAfterByte .endInValue []
        | '"' :: rest => member rest
        | '\x7d' :: rest => stopAfterByte .trailingComma ('\x7d' :: rest)
        | rest => stopAfterByte .nameNotString rest
      else stopAfterByte .expectedCommaOrBrace (c :: rest)

end

def parse (t : Text) : Except ReadError Json :=
  match readValue (2 * t.length + 2) nestingLimit t with
  | .error f => .error (f.locate t)
  | .ok (v, rest) =>
    match skipSpace rest with
    | [] => .ok v
    | rest => .error (Failure.locate ⟨.trailingCharacters, rest, 1⟩ t)

end Runbook.Json
