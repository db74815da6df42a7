import Runbook.Pattern.Fault
import Runbook.Pattern.Reader

/-! # What is wrong with a pattern

A pattern that was refused is gone through once more, with account of the places. A fault of
notation is found where it stops the reading. If there is none, the parts may be nested too deeply;
if they are not, the first character or set counts that cannot be used with the flags in force.
-/
namespace Runbook.Pattern

namespace Fault

def of (kind : String) (start stop : Text) : Fault := ⟨kind, ⟨start, stop⟩, none⟩

def atChar (kind : String) (t : Text) : Fault := .of kind t t.tail

def between (kind : String) (t : Text) : Fault := .of kind t t

def escapeEnds : Text → Text → Fault :=
  .of "incomplete escape sequence, reached end of pattern prematurely"

def setOpen : Text → Text → Fault := .of "unclosed character class"

def countOpen : Text → Text → Fault := .of "unclosed counted repetition"

def nothingToRepeat : Text → Fault := .between "repetition operator missing expression"

def notUnicode (span : Span) : Fault := ⟨"Unicode not allowed here", span, none⟩

def notUtf8 (span : Span) : Fault := ⟨"pattern can match invalid UTF-8", span, none⟩

end Fault

/-! ## Parts -/

/-- A part of a pattern with the parts in it that count as nested. -/
inductive Part where
  | flags (span : Span)
  | plain (span : Span)
  | nested (span : Span) (parts : List Part)

namespace Part

def span : Part → Span
  | .flags s => s
  | .plain s => s
  | .nested s _ => s

/-- Parts one after the other, reversed; `start` is where they begin and `stop` where they end. -/
def sequence (start stop : Text) : List Part → Part
  | [] => .plain ⟨start, stop⟩
  | [p] => p
  | ps => .nested ⟨start, stop⟩ ps.reverse

def union (place : Text) (items : List Part) : Part :=
  sequence ((items.getLast?.map (·.span.start)).getD place)
    ((items.head?.map (·.span.stop)).getD place) items

mutual

def tooDeep? (limit : Nat) : Part → Option Span
  | .nested span parts =>
    match limit with
    | 0 => some span
    | limit + 1 => firstTooDeep? limit parts
  | _ => none

def firstTooDeep? (limit : Nat) : List Part → Option Span
  | [] => none
  | p :: ps => (p.tooDeep? limit).or (firstTooDeep? limit ps)

end

end Part

/-! ## Escapes -/

/-- A character or an escape, or why it cannot be used although the notation is right. -/
structure Primitive where
  span : Span
  atom : Except Fault Atom

namespace Scan

def past (p : Char → Bool) : Nat → Scan → Scan
  | 0, s => s
  | fuel + 1, s =>
    match s.rest with
    | c :: t => if p c then past p fuel (s.onto t) else s
    | [] => s

def pastDigits (s : Scan) : Scan := s.past (fun c => (hexValue? c).isSome) s.rest.length

end Scan

def notHexadecimal : Text → Fault := .atChar "invalid hexadecimal digit"

def noScalar : Text → Text → Fault := .of "hexadecimal literal is not a Unicode scalar value"

def hexFault (width : Nat) (s : Scan) : Fault :=
  match s.rest with
  | '\x7b' :: t =>
    let digits := s.onto t
    let s' := digits.pastDigits
    match s'.rest with
    | [] => .escapeEnds s.rest []
    | '\x7d' :: u =>
      if s'.rest = digits.rest then .of "hexadecimal literal empty" s.rest (s'.onto u).rest
      else noScalar t s'.rest
    | u => notHexadecimal u
  | t =>
    match readHexDigits width 0 s with
    | some (_, s') => noScalar t s'.rest
    | none =>
      match s.pastDigits.rest with
      | [] => .escapeEnds [] []
      | u => notHexadecimal u

def boundaryFault (start : Text) (s : Scan) : Fault :=
  let inner := s.onto s.rest.tail
  let (_, s') := readBoundaryName inner.rest.length [] inner
  match inner.rest, s'.rest with
  | [], _ => .of ("found either the beginning of a special word boundary or a bounded " ++
      "repetition on a \\b with an opening brace, but no closing brace") start []
  | t, '\x7d' :: u => .of ("unrecognized special word boundary assertion, valid choices are: " ++
      "start, end, start-half or end-half") t ('\x7d' :: u)
  | _, u => .of ("special word boundary assertion is either unclosed or contains an invalid " ++
      "character") s.rest u

def readClassName (s : Scan) : Except Fault (Text × Scan) :=
  match s.rest with
  | [] => .error (.escapeEnds [] [])
  | '\x7b' :: t =>
    match readBraced (t.length + 1) [] (s.onto t) with
    | some p => .ok p
    | none => .error (.escapeEnds [] [])
  | '\\' :: t => .error (.atChar "invalid Unicode character class" ('\\' :: t))
  | c :: t => .ok ([c], s.onto t)

def classFault (f : Flags) (name : Text) (span : Span) : Fault :=
  if !f.unicode then .notUnicode span
  else
    match assignment? name with
    | some (_, property, _) =>
      if CharSet.isProperty (CharSet.normaliseName property) then
        ⟨"Unicode property value not found", span, none⟩
      else ⟨"Unicode property not found", span, none⟩
    | none => ⟨"Unicode property not found", span, none⟩

def escapeFault (start : Text) (s : Scan) (c : Char) (t : Text) : Fault :=
  if c.isDigit then .of "backreferences are not supported" start t
  else if c = 'x' then hexFault 2 (s.onto t)
  else if c = 'u' then hexFault 4 (s.onto t)
  else if c = 'U' then hexFault 8 (s.onto t)
  else if c = 'b' then boundaryFault start (s.move t)
  else .of "unrecognized escape sequence" start t

/-- An escape that begins at `start` and whose backslash is read. -/
def inspectEscape (start : Text) (s : Scan) : Except Fault (Primitive × Scan) :=
  match readEscape s, s.rest with
  | some (a, s'), _ => .ok (⟨⟨start, s'.rest⟩, .ok a⟩, s')
  | none, [] => .error (.escapeEnds start [])
  | none, c :: t =>
    if c = 'p' ∨ c = 'P' then
      (readClassName (s.onto t)).map fun (name, s') =>
        let span := ⟨start, s'.rest⟩
        (⟨span, .error (classFault s.flags name span)⟩, s')
    else .error (escapeFault start s c t)

def Primitive.fault? (f : Flags) (p : Primitive) : Option Fault :=
  match p.atom with
  | .error e => some e
  | .ok a => if (atomRegex? f a).isNone then some (.notUtf8 p.span) else none

/-! ## Sets in brackets -/

/-- A bracket that is open: what is read of its set, the part of the pattern that opens it, what is
to the left of the operation that waits, and the items since then, which begin at `place`. -/
structure OpenSet where
  set : Bracket
  opening : Span
  left : Option Part
  place : Text
  items : List Part

namespace OpenSet

def unclosed (b : OpenSet) : Fault := .setOpen b.opening.start b.opening.stop

def add (b : OpenSet) (item : Part) (s : Nested CharSet) : OpenSet :=
  { b with items := item :: b.items, set := b.set.add s }

def combined (b : OpenSet) : Part :=
  let right := Part.union b.place b.items
  match b.left with
  | none => right
  | some left => .nested ⟨left.span.start, right.span.stop⟩ [left, right]

def operate (f : Flags) (op : SetOp) (place : Text) (b : OpenSet) : OpenSet :=
  { b with set := b.set.operate f op, left := some b.combined, place := place, items := [] }

end OpenSet

def hyphens : Nat → List Part → Scan → List Part
  | 0, items, _ => items
  | fuel + 1, items, s =>
    match s.rest with
    | '-' :: t => hyphens fuel (.plain ⟨s.rest, t⟩ :: items) (s.onto t)
    | _ => items

def pastNegation (s : Scan) : Scan :=
  match s.rest with
  | '^' :: t => s.onto t
  | _ => s

def inspectOpening (s : Scan) : Except Fault (OpenSet × Scan) :=
  let inside := pastNegation (s.onto s.rest.tail)
  let items := hyphens inside.rest.length [] inside
  match openBracket s s.rest.tail with
  | some (b, s') =>
    let items := if items.isEmpty && !b.items.isEmpty then
        [.plain ⟨inside.rest, inside.rest.tail⟩]
      else items
    .ok (⟨b, ⟨s.rest, s'.rest⟩, none, inside.rest, items⟩, s')
  | none => .error (.setOpen s.rest (if items.isEmpty then [] else s.rest))

def inspectSetAtom (s : Scan) : Except Fault (Primitive × Scan) :=
  match s.rest with
  | '\\' :: t => inspectEscape s.rest (s.move t)
  | t => .ok (⟨⟨t, t.tail⟩, .ok (.literal (t.headD '\\') false)⟩, s.move t.tail)

def codeFault (asByte : Bool) (span : Span) : Fault :=
  if asByte then .notUtf8 span else .notUnicode span

def unfit? (f : Flags) (s : CharSet) (span : Span) : Option Fault :=
  if f.admits s then none else some (.notUtf8 span)

/-- A character, a range or a class in a set, with the set that it is and why that cannot be used,
if it cannot. -/
def inspectItem (b : OpenSet) (s : Scan) :
    Except Fault (Part × CharSet × Option Fault × Scan) := do
  let (first, s) ← inspectSetAtom s
  let s := s.onto s.rest
  match s.rest with
  | [] => .error b.unclosed
  | c :: t =>
    if c ≠ '-' ∨ s.peek? t = some ']' ∨ s.peek? t = some '-' then
      let span := first.span
      match first.atom with
      | .ok (.literal c asByte) =>
        match setCode? s.flags c with
        | some n => pure (.plain span, .single n, none, s)
        | none => pure (.plain span, .nothing, some (codeFault asByte span), s)
      | .ok (.class k) => pure (.plain span, k, unfit? s.flags k span, s)
      | .ok (.look _) => .error ⟨"invalid escape sequence found in character class", span, none⟩
      | .error e => pure (.plain span, .nothing, some e, s)
    else
      let s := s.onto t
      if s.rest.isEmpty then .error b.unclosed
      else
        let (last, s) ← inspectSetAtom s
        let span := ⟨first.span.start, last.span.stop⟩
        match first.atom, last.atom with
        | .ok (.literal low lowByte), .ok (.literal high highByte) =>
          if high.toNat < low.toNat then
            .error ⟨"invalid character class range, the start must be <= the end", span, none⟩
          else
            match setCode? s.flags low, setCode? s.flags high with
            | some l, some h => pure (.plain span, .range l h, none, s)
            | none, _ => pure (.plain span, .nothing, some (codeFault lowByte first.span), s)
            | _, none => pure (.plain span, .nothing, some (codeFault highByte last.span), s)
        | .ok (.literal _ _), _ => .error ⟨noRange, last.span, none⟩
        | _, _ => .error ⟨noRange, first.span, none⟩
where
  noRange : String := "invalid range boundary, must be a literal"

/-- The rest of a bracket as in `readBracket`, with the first fault that lets the reading go on. -/
def inspectBracket : Nat → List OpenSet → OpenSet → Option Fault → Scan →
    Except Fault (Part × Nested CharSet × Option Fault × Scan)
  | 0, _, b, _, _ => .error b.unclosed
  | fuel + 1, outer, b, late, s =>
    let s := s.onto s.rest
    match s.rest with
    | [] => .error b.unclosed
    | '[' :: _ =>
      match readPosix? s with
      | some (c, s') =>
        let span := ⟨s.rest, s'.rest⟩
        inspectBracket fuel outer (b.add (.plain span) ⟨c, 0⟩) (late.or (unfit? s'.flags c span)) s'
      | none => do
        let (inner, s) ← inspectOpening s
        inspectBracket fuel (b :: outer) inner late s
    | ']' :: t =>
      let span := ⟨b.opening.start, t⟩
      let part := .nested span [b.combined]
      let set := b.set.closed s.flags
      match outer with
      | [] => .ok (part, set, late, s.move t)
      | around :: outer =>
        let late := late.or (unfit? s.flags set.value span)
        inspectBracket fuel outer (around.add part set) late (s.move t)
    | '&' :: '&' :: t => inspectBracket fuel outer (b.operate s.flags .inter t) late (s.move t)
    | '-' :: '-' :: t => inspectBracket fuel outer (b.operate s.flags .diff t) late (s.move t)
    | '~' :: '~' :: t => inspectBracket fuel outer (b.operate s.flags .symmDiff t) late (s.move t)
    | _ => do
      let (part, c, fault, s) ← inspectItem b s
      inspectBracket fuel outer (b.add part ⟨c, 0⟩) (late.or fault) s

/-! ## Repetition -/

def inspectDecimal (s : Scan) : Except Fault Nat × Scan :=
  let digits := s.move (s.rest.dropWhile Text.isBlank)
  let (found, s') := readDecimal.digits digits.rest.length [] digits
  match readDecimal s with
  | (some n, after) => (.ok n, after)
  | (none, after) =>
    let kind := if found.isEmpty then "repetition quantifier expects a valid decimal"
      else "decimal literal invalid"
    (.error (.of kind digits.rest s'.rest), after)

def countsFault (start : Text) (s : Scan) : Fault :=
  let unclosed (t : Text) := Fault.countOpen start t
  let (least, s₁) := inspectDecimal s
  let found : Except Fault Fault :=
    match s.rest, s₁.rest with
    | [], _ => .ok (unclosed [])
    | _, [] => .ok (unclosed [])
    | _, ',' :: t =>
      let s₂ := s₁.onto t
      match s₂.rest with
      | [] => .ok (unclosed [])
      | '\x7d' :: _ => least.map fun _ => unclosed s₂.rest
      | _ => do
        let (most, s₃) := inspectDecimal s₂
        let _ ← least
        let _ ← most
        match s₃.rest with
        | '\x7d' :: u =>
          pure (.of "invalid repetition count range, the start must be <= the end" start
            (skipLazy (s₃.onto u)).rest)
        | u => pure (unclosed u)
    | _, t => least.map fun _ => unclosed t
  match found with
  | .ok e => e
  | .error e => e

/-! ## Groups and flags -/

def nameStart? (t : Text) : Option Text :=
  (Text.after? "?P<".toList t).or (Text.after? "?<".toList t)

def afterName : Text → Text
  | [] => []
  | c :: t => if isNameChar true c then t.dropWhile (isNameChar false) else c :: t

def nameFault (names : List (Text × Span)) (t : Text) : Fault :=
  match afterName t with
  | [] => .between "unclosed capture group name" []
  | '>' :: u =>
    let left := '>' :: u
    let name := t.take (t.length - left.length)
    if name.isEmpty then .between "empty capture group name" t
    else ⟨"duplicate capture group name", ⟨t, left⟩, (names.find? fun n => n.1 == name).map (·.2)⟩
  | u => .atChar "invalid capture group character" u

/-- What is wrong with flags; `seen` are those so far, each with the text from it on. A group
without flags is taken for a question mark that repeats nothing. -/
def flagsFault (group inner : Text) (seen : List (Char × Text)) : Text → Fault
  | [] =>
    if seen.isEmpty then .atChar "unclosed group" group
    else .between "expected flag but got end of regex" []
  | c :: t =>
    let here := c :: t
    let earlier := (seen.find? fun f => f.1 == c).map fun f => (⟨f.2, f.2.tail⟩ : Span)
    if c = ':' ∨ c = ')' then
      match seen with
      | [] => .nothingToRepeat inner
      | (_, minus) :: _ => .atChar "dangling flag negation operator" minus
    else if c = '-' then
      if earlier.isSome then ⟨"flag negation operator repeated", ⟨here, t⟩, earlier⟩
      else flagsFault group inner ((c, here) :: seen) t
    else if (Flags.initial.set? c true).isNone then .atChar "unrecognized flag" here
    else if earlier.isSome then ⟨"duplicate flag", ⟨here, t⟩, earlier⟩
    else flagsFault group inner ((c, here) :: seen) t

/-- What is wrong with the beginning of a group whose parenthesis, at `group`, is read. -/
def openingFault (names : List (Text × Span)) (group : Text) (s : Scan) : Fault :=
  let look := ["?=", "?!", "?<=", "?<!"].findSome? fun p => Text.after? p.toList s.rest
  match look, nameStart? s.rest with
  | some t, _ => .of "look-around, including look-ahead and look-behind, is not supported" group t
  | none, some t => nameFault names t
  | none, none => flagsFault group s.rest [] s.rest.tail

/-! ## Expressions -/

/-- Alternatives that are being read, with the places where they and the last of them begin. -/
structure Course where
  start : Text
  done : List Part
  begun : Text
  pieces : List Part

namespace Course

def new (t : Text) : Course := ⟨t, [], t, []⟩

def push (p : Part) (c : Course) : Course := { c with pieces := p :: c.pieces }

def alternative (stop next : Text) (c : Course) : Course :=
  ⟨c.start, Part.sequence c.begun stop c.pieces :: c.done, next, []⟩

def finish (stop : Text) (c : Course) : Part :=
  Part.sequence c.start stop (Part.sequence c.begun stop c.pieces :: c.done)

end Course

/-- A group that is open, from its parenthesis on, with what precedes it and the flags there. -/
structure Enclosure where
  group : Text
  before : Course
  flags : Flags

structure Inspection where
  groups : List Enclosure
  course : Course
  names : List (Text × Span)
  late : Option Fault
  scan : Scan

namespace Inspection

def start (pattern : Text) : Inspection :=
  ⟨[], .new pattern, [], none, ⟨pattern, .initial, []⟩⟩

def add (i : Inspection) (p : Part) (fault : Option Fault) (s : Scan) : Inspection :=
  { i with course := i.course.push p, late := i.late.or fault, scan := s }

def repeatLast (i : Inspection) (s : Scan) : Except Fault Inspection :=
  match i.course.pieces with
  | [] => .error (.nothingToRepeat i.scan.rest)
  | .flags _ :: _ => .error (.nothingToRepeat i.scan.rest)
  | p :: rest =>
    let part := .nested ⟨p.span.start, s.rest⟩ [p]
    .ok { i with course := { i.course with pieces := part :: rest }, scan := s }

/-- Enters a group. Its name is what was read of the pattern after the sign for a name. -/
def enter (i : Inspection) (inside : Text) (s : Scan) : Inspection :=
  let names := match nameStart? inside with
    | some t => (s.names.headD [], ⟨t, t.drop (s.names.headD []).length⟩) :: i.names
    | none => i.names
  { i with
    groups := ⟨i.scan.rest, i.course, i.scan.flags⟩ :: i.groups
    course := .new s.rest
    names := names
    scan := s }

def leave (i : Inspection) (t : Text) : Except Fault Inspection :=
  match i.groups with
  | [] => .error (.atChar "unopened group" i.scan.rest)
  | g :: groups =>
    let part := .nested ⟨g.group, t⟩ [i.course.finish i.scan.rest]
    .ok { i with
      groups := groups
      course := g.before.push part
      scan := { i.scan with rest := t, flags := g.flags } }

/-- Goes past what stands first, before which there are no blanks that do not count. -/
def step (i : Inspection) : Except Fault Inspection :=
  let s := i.scan
  let f := s.flags
  match s.rest with
  | [] => .ok i
  | '(' :: t =>
    let inside := s.onto t
    match readOpening inside with
    | some (.flags s') => .ok (i.add (.flags ⟨s.rest, s'.rest⟩) none s')
    | some (.group s') => .ok (i.enter inside.rest s')
    | none => .error (openingFault i.names s.rest inside)
  | ')' :: t => i.leave t
  | '|' :: t => .ok { i with course := i.course.alternative s.rest t, scan := s.move t }
  | '[' :: _ => do
    let (b, s) ← inspectOpening s
    let (part, set, late, s) ← inspectBracket (s.rest.length + 1) [] b none s
    pure (i.add part (late.or (unfit? f set.value part.span)) s)
  | '?' :: t => i.repeatLast (skipLazy (s.move t))
  | '*' :: t => i.repeatLast (skipLazy (s.move t))
  | '+' :: t => i.repeatLast (skipLazy (s.move t))
  | '\x7b' :: t =>
    match readCounts (s.onto t) with
    | some (_, s') => i.repeatLast (skipLazy s')
    | none => (i.repeatLast s).bind fun _ => .error (countsFault s.rest (s.onto t))
  | '.' :: t =>
    let span := ⟨s.rest, t⟩
    let fault := if (dotRegex? f).isNone then some (.notUtf8 span) else none
    .ok (i.add (.plain span) fault (s.move t))
  | '^' :: t => .ok (i.add (.plain ⟨s.rest, t⟩) none (s.move t))
  | '$' :: t => .ok (i.add (.plain ⟨s.rest, t⟩) none (s.move t))
  | '\\' :: t => do
    let (p, s') ← inspectEscape s.rest (s.move t)
    pure (i.add (.plain p.span) (p.fault? f) s')
  | c :: t =>
    let p : Primitive := ⟨⟨s.rest, t⟩, .ok (.literal c false)⟩
    .ok (i.add (.plain p.span) (p.fault? f) (s.move t))

/-- Goes to the end of the pattern. Every step passes a character. -/
def run : Nat → Inspection → Except Fault Inspection
  | 0, i => .error (.atChar "unclosed group" i.scan.rest)
  | fuel + 1, i =>
    let i := { i with scan := i.scan.onto i.scan.rest }
    if i.scan.rest.isEmpty then .ok i else i.step.bind (run fuel)

/-- What is wrong with a pattern that is gone through: a group is open, or parts are nested too
deeply, or something cannot be used. -/
def fault? (i : Inspection) : Option Fault :=
  match i.groups with
  | g :: _ => some (.atChar "unclosed group" g.group)
  | [] =>
    match (i.course.finish i.scan.rest).tooDeep? nestingLimit with
    | some span =>
      some ⟨"exceed the maximum number of nested parentheses/brackets (250)", span, none⟩
    | none => i.late

end Inspection

def fault? (pattern : Text) : Option Fault :=
  match (Inspection.start pattern).run (pattern.length + 1) with
  | .ok i => i.fault?
  | .error e => some e

end Runbook.Pattern
