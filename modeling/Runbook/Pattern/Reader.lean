import Runbook.Pattern.SetName
import Runbook.Pattern.Size
import Runbook.Text.Blank

/-! # Reading regular expressions

The notation has alternatives, groups, repetition, sets in brackets, classes of characters, anchors
and word boundaries, and flags that change the meaning of what follows them up to the end of their
group. A pattern that does not follow the notation, is nested too deeply or needs too large a
matcher is refused.
-/
namespace Runbook.Pattern

inductive Error where
  | malformed
  | tooLarge
  deriving DecidableEq, Repr

structure Flags where
  ignoreCase : Bool
  multiLine : Bool
  dotAll : Bool
  unicode : Bool
  returns : Bool
  verbose : Bool
  deriving DecidableEq, Repr

def Flags.initial : Flags := ⟨false, false, false, true, false, false⟩

structure Scan where
  rest : Text
  flags : Flags
  names : List Text

/-- Skips blanks and comments; a comment begins with a number sign and ends with its line. -/
def skipBlanks (inComment : Bool) : Text → Text
  | [] => []
  | c :: t =>
    if inComment then skipBlanks (c != '\n') t
    else if Text.isBlank c then skipBlanks false t
    else if c = '#' then skipBlanks true t
    else c :: t

namespace Scan

def move (s : Scan) (rest : Text) : Scan := { s with rest := rest }

/-- Moves to a place, and past blanks and comments if the flags say that these do not count. -/
def onto (s : Scan) (rest : Text) : Scan :=
  s.move (if s.flags.verbose then skipBlanks false rest else rest)

/-- The first character of the rest that counts. -/
def peek? (s : Scan) (rest : Text) : Option Char :=
  if s.flags.verbose then
    match rest.dropWhile Text.isBlank with
    | '#' :: t =>
      match t.dropWhile Text.isBlank with
      | c :: _ => some c
      | [] => rest.head?
    | c :: _ => some c
    | [] => rest.head?
  else rest.head?

end Scan

/-! ## Escapes -/

/-- What one escape or plain character stands for. A literal may be given as a byte. -/
inductive Atom where
  | literal (c : Char) (asByte : Bool)
  | class (s : CharSet)
  | look (l : Look)

/-- Characters with a meaning of their own, all of which can be escaped. -/
def isMeta (c : Char) : Bool := "\\.+*?()|[]\x7b\x7d^$#&-~".toList.contains c

def isEscapable (c : Char) : Bool :=
  isMeta c || (c.toNat < 128 && !c.isAlphanum && c != '<' && c != '>')

def hexValue? (c : Char) : Option Nat :=
  if c.isDigit then some (c.toNat - 48)
  else if 'a' ≤ c ∧ c ≤ 'f' then some (c.toNat - 87)
  else if 'A' ≤ c ∧ c ≤ 'F' then some (c.toNat - 55)
  else none

def charOf? (n : Nat) : Option Char :=
  if n < 0xD800 ∨ (0xDFFF < n ∧ n < 0x110000) then some (Char.ofNat n) else none

def readHexDigits : Nat → Nat → Scan → Option (Nat × Scan)
  | 0, value, s => some (value, s)
  | count + 1, value, s =>
    match s.rest with
    | c :: t =>
      match hexValue? c with
      | some d => readHexDigits count (value * 16 + d) (s.onto t)
      | none => none
    | [] => none

/-- Hexadecimal digits up to a closing brace; `digits` counts those read. -/
def readHexBraced : Nat → Nat → Nat → Scan → Option (Nat × Scan)
  | 0, _, _, _ => none
  | fuel + 1, digits, value, s =>
    match s.rest with
    | '\x7d' :: t => if digits = 0 then none else some (value, s.onto t)
    | c :: t =>
      match hexValue? c with
      | some d => readHexBraced fuel (digits + 1) (min (value * 16 + d) (Nat.pow 2 32)) (s.onto t)
      | none => none
    | [] => none

/-- The character with a code in hexadecimal digits; `width` digits, unless they are in braces. -/
def readHexEscape (width : Nat) (s : Scan) : Option (Atom × Scan) :=
  match s.rest with
  | '\x7b' :: t =>
    match readHexBraced (t.length + 1) 0 0 (s.onto t) with
    | some (n, s) => (charOf? n).map fun c => (.literal c false, s)
    | none => none
  | _ =>
    match readHexDigits width 0 s with
    | some (n, s) => (charOf? n).map fun c => (.literal c (width == 2), s)
    | none => none

def readBraced : Nat → Text → Scan → Option (Text × Scan)
  | 0, _, _ => none
  | fuel + 1, done, s =>
    match s.rest with
    | '\x7d' :: t => some (done.reverse, s.move t)
    | c :: t => readBraced fuel (c :: done) (s.onto t)
    | [] => none

def complementIf (negated : Bool) (s : CharSet) : CharSet := if negated then .complement s else s

/-- A property with its value, after the first sign between such two; `!=` is for all other
values. -/
def assignment? (name : Text) : Option (Bool × Text × Text) :=
  ((Text.splitOnce? "!=".toList name).map (true, ·)).or
    (((Text.splitOnce? [':'] name).or (Text.splitOnce? ['='] name)).map (false, ·))

def braced? (name : Text) : Option CharSet :=
  match assignment? name with
  | some (others, p, v) => (CharSet.valued? p v).map (complementIf others)
  | none => CharSet.named? name

def Flags.close (f : Flags) (s : CharSet) : CharSet :=
  if f.ignoreCase then (if f.unicode then .caseClosed s else .asciiCaseClosed s) else s

def isAscii (s : CharSet) : Bool := !(List.range 128).any fun i => s.mem (128 + i)

/-- Without Unicode no set has a character beyond ASCII. -/
def Flags.admits (f : Flags) (s : CharSet) : Bool := f.unicode || isAscii s

def readUnicodeClass (negated : Bool) (s : Scan) : Option (Atom × Scan) :=
  let found := match s.rest with
    | '\x7b' :: t =>
      match readBraced (t.length + 1) [] (s.onto t) with
      | some (name, s) => (braced? name).map fun c => (c, s)
      | none => none
    | '\\' :: _ => none
    | c :: t => (CharSet.named? [c]).map fun k => (k, s.onto t)
    | [] => none
  match found with
  | some (c, s) =>
    if s.flags.unicode then some (.class (complementIf negated (s.flags.close c)), s) else none
  | none => none

/-- A class named by one letter; a capital letter names the complement. -/
def letterClass? (unicode : Bool) (c : Char) : Option CharSet :=
  match c with
  | 'd' => some (if unicode then .digit else .asciiDigit)
  | 's' => some (if unicode then .space else .asciiSpace)
  | 'w' => some (if unicode then .word else .asciiWord)
  | 'D' => some (.complement (if unicode then .digit else .asciiDigit))
  | 'S' => some (.complement (if unicode then .space else .asciiSpace))
  | 'W' => some (.complement (if unicode then .word else .asciiWord))
  | _ => none

def controlEscape? (c : Char) : Option Char :=
  match c with
  | 'a' => some '\x07'
  | 'f' => some '\x0c'
  | 't' => some '\t'
  | 'n' => some '\n'
  | 'r' => some '\r'
  | 'v' => some '\x0b'
  | _ => none

def isBoundaryLetter (c : Char) : Bool := c.isAlpha || c == '-'

def readBoundaryName : Nat → Text → Scan → Text × Scan
  | 0, done, s => (done.reverse, s)
  | fuel + 1, done, s =>
    match s.rest with
    | c :: t =>
      if isBoundaryLetter c then readBoundaryName fuel (c :: done) (s.onto t)
      else (done.reverse, s)
    | [] => (done.reverse, s)

/-- A word boundary, which a kind in braces may follow; other braces are left for a repetition. -/
def readBoundary (s : Scan) : Option (Atom × Scan) :=
  let u := s.flags.unicode
  match s.rest with
  | '\x7b' :: t =>
    let inner := s.onto t
    match inner.rest with
    | [] => none
    | c :: _ =>
      if isBoundaryLetter c then
        let (name, s) := readBoundaryName inner.rest.length [] inner
        match s.rest with
        | '\x7d' :: t =>
          if name = "start".toList then some (.look (.wordStart u), s.move t)
          else if name = "end".toList then some (.look (.wordEnd u), s.move t)
          else if name = "start-half".toList then some (.look (.wordStartHalf u), s.move t)
          else if name = "end-half".toList then some (.look (.wordEndHalf u), s.move t)
          else none
        | _ => none
      else some (.look (.wordBoundary u), s)
  | _ => some (.look (.wordBoundary u), s)

def readEscape (s : Scan) : Option (Atom × Scan) :=
  let u := s.flags.unicode
  match s.rest with
  | [] => none
  | c :: t =>
    if c.isDigit then none
    else if c = 'x' then readHexEscape 2 (s.onto t)
    else if c = 'u' then readHexEscape 4 (s.onto t)
    else if c = 'U' then readHexEscape 8 (s.onto t)
    else if c = 'p' ∨ c = 'P' then readUnicodeClass (c == 'P') (s.onto t)
    else
      match letterClass? u c with
      | some k => some (.class k, s.move t)
      | none =>
        if isEscapable c then some (.literal c false, s.move t)
        else
          match controlEscape? c with
          | some d => some (.literal d false, s.move t)
          | none =>
            match c with
            | 'A' => some (.look .textStart, s.move t)
            | 'z' => some (.look .textEnd, s.move t)
            | 'b' => readBoundary (s.move t)
            | 'B' => some (.look (.notWordBoundary u), s.move t)
            | '<' => some (.look (.wordStart u), s.move t)
            | '>' => some (.look (.wordEnd u), s.move t)
            | _ => none

/-! ## Sets in brackets -/

inductive SetOp where
  | inter
  | diff
  | symmDiff

def SetOp.apply : SetOp → CharSet → CharSet → CharSet
  | .inter => .inter
  | .diff => .diff
  | .symmDiff => .symmDiff

structure Nested (α : Type) where
  value : α
  height : Nat

/-- What is read of a bracket: whether the set is negated, the operation that waits for its right
side, and the items since then, reversed. -/
structure Bracket where
  negated : Bool
  left : Option (SetOp × Nested CharSet)
  items : List (Nested CharSet)

namespace Bracket

def gathered (b : Bracket) : Nested CharSet :=
  match b.items with
  | [] => ⟨.nothing, 0⟩
  | [item] => item
  | items => ⟨.unionAll (items.map (·.value)), (items.map (·.height)).foldl max 0 + 1⟩

def combined (f : Flags) (b : Bracket) : Nested CharSet :=
  let right := b.gathered
  match b.left with
  | none => right
  | some (op, left) =>
    ⟨op.apply (f.close left.value) (f.close right.value), max left.height right.height + 1⟩

def add (b : Bracket) (item : Nested CharSet) : Bracket := { b with items := item :: b.items }

def operate (f : Flags) (b : Bracket) (op : SetOp) : Bracket :=
  ⟨b.negated, some (op, b.combined f), []⟩

def closed (f : Flags) (b : Bracket) : Nested CharSet :=
  let c := b.combined f
  ⟨complementIf b.negated (f.close c.value), c.height + 1⟩

end Bracket

def readHyphens : Nat → List (Nested CharSet) → Scan → List (Nested CharSet) × Scan
  | 0, items, s => (items, s)
  | fuel + 1, items, s =>
    match s.rest with
    | '-' :: t => readHyphens fuel (⟨.single '-'.toNat, 0⟩ :: items) (s.onto t)
    | _ => (items, s)

/-- The beginning of a bracket, which is read: its negation, and the hyphens or the closing bracket
that count as characters there. -/
def openBracket (s : Scan) (t : Text) : Option (Bracket × Scan) :=
  let s := s.onto t
  let (negated, s) := match s.rest with
    | '^' :: t => (true, s.onto t)
    | _ => (false, s)
  let (items, s) := readHyphens s.rest.length [] s
  match s.rest with
  | [] => none
  | ']' :: t =>
    if items.isEmpty then
      let s := s.onto t
      if s.rest.isEmpty then none else some (⟨negated, none, [⟨.single ']'.toNat, 0⟩]⟩, s)
    else some (⟨negated, none, items⟩, s)
  | _ => some (⟨negated, none, items⟩, s)

/-- A set named between colons, such as `[:alpha:]`, if there is one. -/
def readPosix? (s : Scan) : Option (CharSet × Scan) :=
  match s.rest with
  | '[' :: ':' :: t =>
    let (negated, t) := match t with
      | '^' :: t => (true, t)
      | t => (false, t)
    match Text.splitOnce? [':'] t with
    | some (name, ']' :: after) =>
      (CharSet.posix? name).map fun c =>
        (complementIf negated (s.flags.close c), s.move after)
    | _ => none
  | _ => none

/-- The code of a literal in a set; without Unicode only ASCII characters can be in one. -/
def setCode? (f : Flags) (c : Char) : Option Nat :=
  if f.unicode ∨ c.toNat < 128 then some c.toNat else none

def readSetAtom (s : Scan) : Option (Atom × Scan) :=
  match s.rest with
  | [] => none
  | '\\' :: t => readEscape (s.move t)
  | c :: t => some (.literal c false, s.move t)

def readSetItem (s : Scan) : Option (CharSet × Scan) :=
  match readSetAtom s with
  | none => none
  | some (first, s) =>
    let s := s.onto s.rest
    match s.rest with
    | [] => none
    | c :: t =>
      if c ≠ '-' ∨ s.peek? t = some ']' ∨ s.peek? t = some '-' then
        match first with
        | .literal c _ => (setCode? s.flags c).map fun n => (.single n, s)
        | .class k => if s.flags.admits k then some (k, s) else none
        | .look _ => none
      else
        match readSetAtom (s.onto t) with
        | some (.literal high _, s) =>
          match first with
          | .literal low _ =>
            match setCode? s.flags low, setCode? s.flags high with
            | some l, some h => if l ≤ h then some (.range l h, s) else none
            | _, _ => none
          | _ => none
        | _ => none

/-- The rest of a bracket; `outer` are the brackets around it, the nearest first. -/
def readBracket : Nat → List Bracket → Bracket → Scan → Option (Nested CharSet × Scan)
  | 0, _, _, _ => none
  | fuel + 1, outer, b, s =>
    let s := s.onto s.rest
    match s.rest with
    | [] => none
    | '[' :: t =>
      match readPosix? s with
      | some (c, s) => if s.flags.admits c then readBracket fuel outer (b.add ⟨c, 0⟩) s else none
      | none =>
        match openBracket s t with
        | some (inner, s) => readBracket fuel (b :: outer) inner s
        | none => none
    | ']' :: t =>
      let set := b.closed s.flags
      match outer with
      | [] => some (set, s.move t)
      | around :: outer =>
        if s.flags.admits set.value then readBracket fuel outer (around.add set) (s.move t)
        else none
    | '&' :: '&' :: t => readBracket fuel outer (b.operate s.flags .inter) (s.move t)
    | '-' :: '-' :: t => readBracket fuel outer (b.operate s.flags .diff) (s.move t)
    | '~' :: '~' :: t => readBracket fuel outer (b.operate s.flags .symmDiff) (s.move t)
    | _ =>
      match readSetItem s with
      | some (c, s) => readBracket fuel outer (b.add ⟨c, 0⟩) s
      | none => none

def setRegex? (f : Flags) (s : CharSet) : Option Regex :=
  if f.admits s then some (.set (if f.unicode then s else .inter s (.range 0 127))) else none

/-! ## Repetition -/

def readDecimal (s : Scan) : Option Nat × Scan :=
  let rec digits : Nat → Text → Scan → Text × Scan
    | 0, done, s => (done.reverse, s)
    | fuel + 1, done, s =>
      match s.rest with
      | c :: t => if c.isDigit then digits fuel (c :: done) (s.onto t) else (done.reverse, s)
      | [] => (done.reverse, s)
  let s := s.move (s.rest.dropWhile Text.isBlank)
  let (found, s) := digits s.rest.length [] s
  let s := s.onto (s.rest.dropWhile Text.isBlank)
  let value := found.foldl (fun n c => n * 10 + (c.toNat - 48)) 0
  (if found = [] ∨ Nat.pow 2 32 ≤ value then none else some value, s)

def readCounts (s : Scan) : Option ((Nat × Option Nat) × Scan) :=
  let (least, s) := readDecimal s
  match s.rest with
  | ',' :: t =>
    let s := s.onto t
    match s.rest with
    | '\x7d' :: t => least.map fun n => ((n, none), s.onto t)
    | [] => none
    | _ =>
      let (most, s) := readDecimal s
      match least, most, s.rest with
      | some n, some m, '\x7d' :: t => if n ≤ m then some ((n, some m), s.onto t) else none
      | _, _, _ => none
  | '\x7d' :: t => least.map fun n => ((n, some n), s.onto t)
  | _ => none

/-- The scan past a question mark, which makes a repetition take as little as it can; that does not
change what matches. -/
def skipLazy (s : Scan) : Scan :=
  match s.rest with
  | '?' :: t => s.move t
  | _ => s

/-! ## Groups and flags -/

def isNameChar (first : Bool) (c : Char) : Bool :=
  let alphabetic := Unicode.alphabetic.holds c.toNat
  let numeric := (CharSet.categories (["Nd", "Nl", "No"].map String.toList)).mem c.toNat
  c == '_' || alphabetic ||
    (!first && (numeric || c == '.' || c == '[' || c == ']'))

/-- The name of a group, up to the closing angle bracket; no two groups have the same. -/
def readGroupName (s : Scan) : Option Scan :=
  match Text.splitOnce? ['>'] s.rest with
  | some (first :: more, t) =>
    let name := first :: more
    if isNameChar true first && more.all (isNameChar false) && !s.names.contains name then
      some { s with rest := t, names := name :: s.names }
    else none
  | _ => none

def Flags.set? (f : Flags) (c : Char) (on : Bool) : Option Flags :=
  match c with
  | 'i' => some { f with ignoreCase := on }
  | 'm' => some { f with multiLine := on }
  | 's' => some { f with dotAll := on }
  | 'U' => some f
  | 'u' => some { f with unicode := on }
  | 'R' => some { f with returns := on }
  | 'x' => some { f with verbose := on }
  | _ => none

/-- Flags up to a colon or a closing parenthesis, with the text from there on. No flag and no minus
sign stands twice, and a flag follows the minus sign. -/
def readFlags (f : Flags) (seen : Text) (on dangling : Bool) : Text → Option (Flags × Text)
  | [] => none
  | c :: t =>
    if c = ':' ∨ c = ')' then (if dangling then none else some (f, c :: t))
    else if seen.contains c then none
    else if c = '-' then readFlags f (c :: seen) false true t
    else
      match f.set? c on with
      | some f => readFlags f (c :: seen) on false t
      | none => none

/-- What an opening parenthesis begins: flags for the rest of the enclosing group, or a group. -/
inductive Opening where
  | flags (s : Scan)
  | group (s : Scan)

def readOpening (s : Scan) : Option Opening :=
  let looks := ["?=", "?!", "?<=", "?<!"].any fun p => Text.startsWith p.toList s.rest
  if looks then none
  else
    match s.rest with
    | '?' :: 'P' :: '<' :: t => (readGroupName (s.move t)).map .group
    | '?' :: '<' :: t => (readGroupName (s.move t)).map .group
    | '?' :: t =>
      match readFlags s.flags [] true false t with
      | some (f, ':' :: after) => some (.group { s with rest := after, flags := f })
      | some (f, ')' :: after) =>
        match t with
        | ')' :: _ => none
        | _ => some (.flags { s with rest := after, flags := f })
      | _ => none
    | _ => some (.group s)

/-! ## Expressions -/

/-- A part of a sequence; flags cannot be repeated. -/
structure Piece where
  regex : Nested Regex
  isFlags : Bool

/-- A sequence that is being read, its pieces reversed, and the finished alternatives before it,
also reversed. -/
structure Branches where
  done : List (Nested Regex)
  pieces : List Piece

namespace Branches

def start : Branches := ⟨[], []⟩

def push (b : Branches) (r : Nested Regex) : Branches :=
  { b with pieces := ⟨r, false⟩ :: b.pieces }

def pushFlags (b : Branches) : Branches :=
  { b with pieces := ⟨⟨.empty, 0⟩, true⟩ :: b.pieces }

def sequence (b : Branches) : Nested Regex :=
  match b.pieces with
  | [] => ⟨.empty, 0⟩
  | [p] => p.regex
  | ps =>
    ⟨ps.foldl (fun r p => .seq p.regex.value r) .empty,
      (ps.map (·.regex.height)).foldl max 0 + 1⟩

def alternative (b : Branches) : Branches := ⟨b.sequence :: b.done, []⟩

def finish (b : Branches) : Nested Regex :=
  match b.done with
  | [] => b.sequence
  | rs =>
    let all := b.sequence :: rs
    ⟨rs.foldl (fun r p => .alt p.value r) b.sequence.value,
      (all.map (·.height)).foldl max 0 + 1⟩

def repeatLast? (b : Branches) (least : Nat) (most : Option Nat) : Option Branches :=
  match b.pieces with
  | ⟨r, false⟩ :: rest =>
    some { b with pieces := ⟨⟨.repeated r.value least most, r.height + 1⟩, false⟩ :: rest }
  | _ => none

end Branches

def atomRegex? (f : Flags) : Atom → Option Regex
  | .look l => some (.look l)
  | .class k => setRegex? f k
  | .literal c asByte =>
    if f.unicode then some (.set (f.close (.single c.toNat)))
    else if asByte ∧ 128 ≤ c.toNat then none
    else if c.toNat < 128 then some (.set (f.close (.single c.toNat)))
    else some (.set (.single c.toNat))

def dotRegex? (f : Flags) : Option Regex :=
  if !f.unicode then none
  else if f.dotAll then some (.set .any)
  else if f.returns then some (.set (.complement (.union (.single 10) (.single 13))))
  else some (.set (.complement (.single 10)))

def startLook (f : Flags) : Look :=
  if f.multiLine then (if f.returns then .lineStartReturn else .lineStart) else .textStart

def endLook (f : Flags) : Look :=
  if f.multiLine then (if f.returns then .lineEndReturn else .lineEnd) else .textEnd

structure Frame where
  before : Branches
  flags : Flags

/-- Reads a pattern to its end; `frames` are the groups around, the innermost first. Every round
reads a character. -/
def readPattern : Nat → List Frame → Branches → Scan → Option (Nested Regex)
  | 0, _, _, _ => none
  | fuel + 1, frames, b, s =>
    let s := s.onto s.rest
    let f := s.flags
    match s.rest with
    | [] => if frames.isEmpty then some b.finish else none
    | '(' :: t =>
      match readOpening (s.onto t) with
      | some (.flags s) => readPattern fuel frames b.pushFlags s
      | some (.group s) => readPattern fuel (⟨b, f⟩ :: frames) .start s
      | none => none
    | ')' :: t =>
      match frames with
      | ⟨before, flags⟩ :: frames =>
        let r := b.finish
        readPattern fuel frames (before.push ⟨r.value, r.height + 1⟩)
          { s with rest := t, flags := flags }
      | [] => none
    | '|' :: t => readPattern fuel frames b.alternative (s.move t)
    | '[' :: t =>
      match openBracket s t with
      | some (inner, s) =>
        match readBracket (s.rest.length + 1) [] inner s with
        | some (set, s) =>
          match setRegex? f set.value with
          | some r => readPattern fuel frames (b.push ⟨r, set.height⟩) s
          | none => none
        | none => none
      | none => none
    | '?' :: t =>
      match b.repeatLast? 0 (some 1) with
      | some b => readPattern fuel frames b (skipLazy (s.move t))
      | none => none
    | '*' :: t =>
      match b.repeatLast? 0 none with
      | some b => readPattern fuel frames b (skipLazy (s.move t))
      | none => none
    | '+' :: t =>
      match b.repeatLast? 1 none with
      | some b => readPattern fuel frames b (skipLazy (s.move t))
      | none => none
    | '\x7b' :: t =>
      match readCounts (s.onto t) with
      | some ((least, most), s) =>
        match b.repeatLast? least most with
        | some b => readPattern fuel frames b (skipLazy s)
        | none => none
      | none => none
    | '.' :: t =>
      match dotRegex? f with
      | some r => readPattern fuel frames (b.push ⟨r, 0⟩) (s.move t)
      | none => none
    | '^' :: t => readPattern fuel frames (b.push ⟨.look (startLook f), 0⟩) (s.move t)
    | '$' :: t => readPattern fuel frames (b.push ⟨.look (endLook f), 0⟩) (s.move t)
    | '\\' :: t =>
      match readEscape (s.move t) with
      | some (atom, s) =>
        match atomRegex? f atom with
        | some r => readPattern fuel frames (b.push ⟨r, 0⟩) s
        | none => none
      | none => none
    | c :: t =>
      match atomRegex? f (.literal c false) with
      | some r => readPattern fuel frames (b.push ⟨r, 0⟩) (s.move t)
      | none => none

def nestingLimit : Nat := 250

def sizeLimit : Nat := 10485760

def parse (pattern : Text) : Except Error Regex :=
  match readPattern (pattern.length + 1) [] .start ⟨pattern, .initial, []⟩ with
  | none => .error .malformed
  | some r =>
    if nestingLimit < r.height then .error .malformed
    else if sizeLimit < r.value.footprint then .error .tooLarge
    else .ok r.value

end Runbook.Pattern
