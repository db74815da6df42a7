import Runbook.Toml.Table

/-! # Reading TOML

Each reader takes something off the beginning of a text and gives it with the rest, or what is wrong
there.
-/
namespace Runbook.Toml

/-! ## Blanks and line ends -/

def isBlank (c : Char) : Bool := c = ' ' || c = '\t'

def skipBlanks (t : Text) : Text := t.dropWhile isBlank

def isPlain (c : Char) : Bool := c = '\t' || (0x20 ≤ c.toNat && c.toNat != 0x7F)

/-- What follows a line feed, with or without a carriage return, or the end of the text. -/
def lineEnd? : Text → Option Text
  | [] => some []
  | '\n' :: t => some t
  | '\r' :: '\n' :: t => some t
  | _ => none

def finishLine (t : Text) : Except Fault Text :=
  let rest := match skipBlanks t with
    | '#' :: t => lineEnd? (t.dropWhile isPlain)
    | t => lineEnd? t
  match rest with
  | some rest => .ok rest
  | none => expecting ["newline".toList, Text.ticked ['#']] (.error .absent)

def skipGaps (inComment : Bool) : Text → Option Text
  | [] => some []
  | '\n' :: t => skipGaps false t
  | '\r' :: '\n' :: t => skipGaps false t
  | c :: t =>
    if inComment then if isPlain c then skipGaps true t else none
    else if isBlank c then skipGaps false t
    else if c = '#' then skipGaps true t
    else some (c :: t)

/-! ## Strings -/

def hexValue? (c : Char) : Option Nat :=
  if c.isDigit then some (c.toNat - '0'.toNat)
  else if 'a' ≤ c ∧ c ≤ 'f' then some (c.toNat - 'a'.toNat + 10)
  else if 'A' ≤ c ∧ c ≤ 'F' then some (c.toNat - 'A'.toNat + 10)
  else none

def readHex : Nat → Nat → Text → Read Nat
  | 0, n, t => .ok (n, t)
  | _ + 1, _, [] => .error .absent
  | count + 1, n, c :: t =>
    match hexValue? c with
    | some v => readHex count (16 * n + v) t
    | none => .error .absent

def readCodePoint (count : Nat) (t : Text) : Except Fault (Char × Text) := do
  let (n, rest) ← readHex count 0 t
  if n.isValidChar then pure (Char.ofNat n, rest) else .error .outOfRange

def readEscape : Text → Read Char
  | [] => .error .absent
  | 'b' :: t => .ok ('\x08', t)
  | 'f' :: t => .ok ('\x0c', t)
  | 'n' :: t => .ok ('\n', t)
  | 'r' :: t => .ok ('\r', t)
  | 't' :: t => .ok ('\t', t)
  | '"' :: t => .ok ('"', t)
  | '\\' :: t => .ok ('\\', t)
  | 'u' :: t => within "unicode 4-digit hex code" (readCodePoint 4 t)
  | 'U' :: t => within "unicode 8-digit hex code" (readCodePoint 8 t)
  | _ =>
    within "escape sequence"
      (expecting ("bfnrtuU\\\"".toList.map fun c => Text.ticked [c]) (.error .absent))

/-- The rest of a string on one line between the given quotes; `done` is what precedes, reversed.
Every round reads a character, so the length of the text is fuel enough. -/
def readLineString (quote : Char) : Nat → Text → Text → Read Text
  | 0, _, _ => .error .absent
  | _ + 1, _, [] => .error .absent
  | fuel + 1, done, c :: t =>
    if c = quote then .ok (done.reverse, t)
    else if c = '\\' ∧ quote = '"' then
      match readEscape t with
      | .ok (e, rest) => readLineString quote fuel (e :: done) rest
      | .error e => .error e
    else if isPlain c then readLineString quote fuel (c :: done) t
    else .error .absent

/-- What follows a backslash at the end of a line and all blanks and line ends after it. -/
def unfolded? (t : Text) : Option Text :=
  match skipBlanks t with
  | [] => none
  | t => (lineEnd? t).map skipAll
where
  skipAll : Text → Text
    | [] => []
    | '\n' :: t => skipAll t
    | '\r' :: '\n' :: t => skipAll t
    | c :: t => if isBlank c then skipAll t else c :: t

/-- The rest of a string over several lines between the given quotes, three on each side; up to two
more before the last three belong to the string. -/
def readBlockString (quote : Char) : Nat → Text → Text → Read Text
  | 0, _, _ => .error .absent
  | fuel + 1, done, t =>
    match Text.after? [quote, quote, quote] t with
    | some rest =>
      let more := (rest.take 2).takeWhile (· = quote)
      .ok (done.reverse ++ more, rest.drop more.length)
    | none =>
      match t with
      | [] => .error .absent
      | '\n' :: t => readBlockString quote fuel ('\n' :: done) t
      | '\r' :: '\n' :: t => readBlockString quote fuel ('\n' :: done) t
      | c :: t =>
        if c = '\\' ∧ quote = '"' then
          match unfolded? t with
          | some rest => readBlockString quote fuel done rest
          | none =>
            match readEscape t with
            | .ok (e, rest) => readBlockString quote fuel (e :: done) rest
            | .error e => .error e
        else if isPlain c then readBlockString quote fuel (c :: done) t
        else .error .absent

def readQuoted (quote : Char) (t : Text) : Read Text :=
  settle (within (if quote = '"' then "basic string" else "literal string")
    (readLineString quote (t.length + 1) [] t))

/-- A string value that begins with the given quote. A line end directly after three quotes does
not belong to it. -/
def readString (quote : Char) (t : Text) : Read Text :=
  match Text.after? [quote, quote] t with
  | some rest =>
    let body := match rest with
      | '\n' :: r => r
      | '\r' :: '\n' :: r => r
      | r => r
    settle (within
      (if quote = '"' then "multiline basic string" else "multiline literal string")
      (readBlockString quote (body.length + 1) [] body))
  | none => readQuoted quote t

/-! ## Keys -/

def readSimpleKey (t : Text) : Read Text :=
  match t with
  | '"' :: rest => readQuoted '"' rest
  | '\x27' :: rest => readQuoted '\x27' rest
  | t =>
    match t.takeWhile isBareKey with
    | [] => .error .absent
    | key => .ok (key, t.dropWhile isBareKey)

/-- The parts of a dotted key. A dot that no part follows is left. -/
def readKeyParts : Nat → Text → Except Fault (List Text × Text)
  | 0, _ => .error .absent
  | fuel + 1, t => do
    let (key, rest) ← readSimpleKey (skipBlanks t)
    match skipBlanks rest with
    | '.' :: more =>
      match readKeyParts fuel more with
      | .ok (keys, rest) => pure (key :: keys, rest)
      | .error e => if e.settled then .error e else pure ([key], '.' :: more)
    | rest => pure ([key], rest)

/-- A key has fewer parts than this, and arrays and inline tables are nested less deep. -/
def depthLimit : Nat := 80

def readKey (t : Text) : Except Fault (List Text × Text) := do
  let (parts, rest) ← within "key" (readKeyParts (t.length + 1) t)
  if parts.length < depthLimit then pure (parts, rest) else .error .tooDeep

def afterKey (t : Text) : Except Fault Text := do
  let rest ← expecting [Text.ticked ['.'], Text.ticked ['=']] (after "=" t)
  pure (skipBlanks rest)

/-! ## Numbers -/

def digitMissing : Fault := { Fault.absent with settled := true, expected := ["digit".toList] }

/-- More digits, between two of which an underscore may stand. -/
def moreDigits (isDigit : Char → Bool) (done : Text) : Text → Read Text
  | '_' :: c :: t =>
    if isDigit c then moreDigits isDigit (c :: done) t else .error digitMissing
  | c :: t =>
    if isDigit c then moreDigits isDigit (c :: done) t
    else if c = '_' then .error digitMissing else .ok (done.reverse, c :: t)
  | [] => .ok (done.reverse, [])

def readDigits (isDigit : Char → Bool) : Text → Read Text
  | c :: t => if isDigit c then moreDigits isDigit [c] t else .error .absent
  | [] => .error .absent

/-- Decimal digits, of which the first is a zero only if it is the last. -/
def readWhole : Text → Read Text
  | '0' :: t => .ok (['0'], t)
  | t => within "integer" (readDigits Char.isDigit t)

def valueOf (base : Nat) (digits : Text) : Nat :=
  digits.foldl (fun n c => base * n + (hexValue? c).getD 0) 0

def integer (negative : Bool) (n : Nat) : Except Fault Value :=
  let bound := if negative then Nat.pow 2 63 else Nat.pow 2 63 - 1
  if n ≤ bound then .ok (.integer (if negative then -(n : Int) else n))
  else settle (.error (.tooLarge negative))

/-- Beyond this power of ten a number is larger, and below its opposite smaller, than all others. -/
def decimalRange : Int := 400

/-- The number nearest to a decimal one. Too large a number is infinite if it is negative, and
refused if it is not. -/
def float (negative : Bool) (significand : Nat) (exponent : Int) : Except Fault Value :=
  let leading := exponent + ((Text.ofNat significand).length : Int)
  let nearest :=
    if significand = 0 ∨ leading < -decimalRange then some (Decimal.Binary64.zero negative)
    else if decimalRange < leading then none
    else Decimal.Binary64.ofDecimal? negative significand exponent
  match nearest with
  | some x => .ok (.float (.finite x))
  | none => if negative then .ok (.float (.infinite true)) else .error .absent

def readExponent (t : Text) : Read (Option Int) :=
  let digits (down : Bool) (t : Text) : Read (Option Int) :=
    (readDigits Char.isDigit t).map fun p =>
      (some (if down then -(valueOf 10 p.1 : Int) else valueOf 10 p.1), p.2)
  let signed : Text → Read (Option Int)
    | '-' :: t => digits true t
    | '+' :: t => digits false t
    | t => digits false t
  match t with
  | 'e' :: t => signed t
  | 'E' :: t => signed t
  | t => .ok (none, t)

def readFraction (t : Text) : Read (Option Text) :=
  match t with
  | '.' :: t =>
    expecting ["digit".toList] ((readDigits Char.isDigit t).map fun p => (some p.1, p.2))
  | t => .ok (none, t)

/-- The rest of a number with a decimal point or a power of ten, or nothing if it has neither. -/
def readFloat? (negative : Bool) (whole t : Text) : Except Fault (Option Value × Text) :=
  settle (within "floating-point number" do
    let (fraction, t) ← readFraction t
    let (exponent, t) ← readExponent t
    match fraction, exponent with
    | none, none => pure (none, t)
    | _, _ =>
      let digits := fraction.getD []
      let x ← float negative (valueOf 10 (whole ++ digits)) (exponent.getD 0 - digits.length)
      pure (some x, t))

def readDecimal (negative : Bool) (t : Text) : Except Fault (Value × Text) := do
  let (whole, t) ← readWhole t
  let (x, t) ← readFloat? negative whole t
  match x with
  | some x => pure (x, t)
  | none => pure (← integer negative (valueOf 10 whole), t)

def readBased (construct : String) (base : Nat) (isDigit : Char → Bool) (t : Text) :
    Except Fault (Value × Text) := do
  let (digits, t) ← settle (within construct (readDigits isDigit t))
  pure (← integer false (valueOf base digits), t)

def special? (negative : Bool) (t : Text) : Option (Value × Text) :=
  match t with
  | 'i' :: 'n' :: 'f' :: t => some (.float (.infinite negative), t)
  | 'n' :: 'a' :: 'n' :: t => some (.float .undefined, t)
  | _ => none

def readSigned (negative : Bool) (t : Text) : Read Value :=
  match special? negative t with
  | some p => .ok p
  | none => readDecimal negative t

def readNumber (t : Text) : Read Value :=
  match t with
  | '0' :: 'x' :: t => readBased "hexadecimal integer" 16 (fun c => (hexValue? c).isSome) t
  | '0' :: 'o' :: t => readBased "octal integer" 8 (fun c => '0' ≤ c && c ≤ '7') t
  | '0' :: 'b' :: t => readBased "binary integer" 2 (fun c => c = '0' || c = '1') t
  | '-' :: t => readSigned true t
  | '+' :: t => readSigned false t
  | t => readDecimal false t

/-! ## Dates and times -/

def readFixed : Nat → Nat → Text → Read Nat
  | 0, n, t => .ok (n, t)
  | count + 1, n, c :: t =>
    if c.isDigit then readFixed count (10 * n + (c.toNat - '0'.toNat)) t else .error .absent
  | _ + 1, _, [] => .error .absent

def readTwo (least greatest : Nat) (t : Text) : Except Fault (Nat × Text) := do
  let (n, rest) ← readFixed 2 0 t
  if least ≤ n ∧ n ≤ greatest then pure (n, rest) else .error .outOfRange

def isLeap (year : Nat) : Bool := year % 4 == 0 && (year % 100 != 0 || year % 400 == 0)

def daysIn (year month : Nat) : Nat :=
  if month = 2 then if isLeap year then 29 else 28
  else if month = 4 ∨ month = 6 ∨ month = 9 ∨ month = 11 then 30
  else 31

def restOfDate (year : Nat) (t : Text) : Except Fault Text := do
  let (month, t) ← readTwo 1 12 t
  let t ← after "-" t
  let (day, t) ← readTwo 1 31 t
  if day ≤ daysIn year month then pure t else .error .outOfRange

def restOfTime (t : Text) : Except Fault Text := do
  let (_, t) ← readTwo 0 59 t
  let t ← after ":" t
  let (_, t) ← readTwo 0 60 t
  match t with
  | '.' :: c :: rest => pure (if c.isDigit then rest.dropWhile Char.isDigit else t)
  | t => pure t

def hour? (t : Text) : Option Text :=
  match readTwo 0 23 t with
  | .ok (_, ':' :: rest) => some rest
  | _ => none

def restOfOffset (t : Text) : Except Fault Text :=
  let difference (t : Text) : Except Fault Text := within "time offset" do
    let (_, t) ← readTwo 0 23 t
    let t ← after ":" t
    let (_, t) ← readTwo 0 59 t
    pure t
  match t with
  | 'Z' :: t => .ok t
  | 'z' :: t => .ok t
  | '+' :: t => difference t
  | '-' :: t => difference t
  | t => .ok t

def restOfDay (t : Text) : Except Fault Text :=
  match t with
  | c :: rest =>
    if c = 'T' ∨ c = 't' ∨ c = ' ' then
      match hour? rest with
      | some rest => (restOfTime rest).bind restOfOffset
      | none => .ok t
    else .ok t
  | [] => .ok t

def dateTime? (t : Text) : Option (Except Fault Text) :=
  match readFixed 4 0 t with
  | .ok (year, '-' :: rest) =>
    some (settle (within "date-time" ((restOfDate year rest).bind restOfDay)))
  | _ => (hour? t).map fun rest => settle (within "time" (restOfTime rest))

def readDigitValue (t : Text) : Read Value :=
  match dateTime? t with
  | some rest => rest.map fun rest => (.dateTime, rest)
  | none => readNumber t

/-! ## Values -/

/-- What is said where no value begins: most likely a string lacks its quotes. -/
def unquoted {α : Type} (r : Except Fault α) : Except Fault α :=
  within "string" (expecting [Text.ticked ['"'], Text.ticked ['\x27']] r)

def leadingDigit (construct : String) : Read Value :=
  within construct (expecting ["leading digit".toList] (.error .absent))

def readWord (word : String) (v : Value) (t : Text) : Read Value :=
  unquoted (settle ((after word t).map fun rest => (v, rest)))

def closing (construct bracket : String) (t : Text) : Except Fault Text :=
  settle (within construct (expecting [Text.ticked bracket.toList] (after bracket t)))

mutual

/-- A value. Every call of the three readers reads a character or is followed by one that does, so
twice the length of the text is fuel enough. -/
def readValue : Nat → Nat → Text → Except Fault (Value × Text)
  | 0, _, _ => .error .absent
  | fuel + 1, depth, t =>
    match t with
    | [] => .error .absent
    | '"' :: rest => (readString '"' rest).map fun p => (.string p.1, p.2)
    | '\x27' :: rest => (readString '\x27' rest).map fun p => (.string p.1, p.2)
    | '[' :: rest =>
      if depth ≤ 1 then settle (.error .tooDeep)
      else do
        let (items, rest) ← readItems fuel (depth - 1) [] rest
        pure (.array items, ← closing "array" "]" rest)
    | '\x7b' :: rest =>
      if depth ≤ 1 then settle (.error .tooDeep)
      else do
        let (pairs, rest) ← readPairs fuel (depth - 1) [] rest rest
        let entries ← settle (Entries.ofPairs pairs)
        pure (.table .inlined entries, ← closing "inline table" "\x7d" (skipBlanks rest))
    | 't' :: _ => readWord "true" (.boolean true) t
    | 'f' :: _ => readWord "false" (.boolean false) t
    | '_' :: _ => leadingDigit "integer"
    | '.' :: _ => leadingDigit "floating-point number"
    | c :: _ =>
      if c.isDigit ∨ c = '+' ∨ c = '-' then readDigitValue t
      else
        match special? false t with
        | some p => .ok p
        | none => unquoted (.error .absent)

/-- The items of an array, up to what cannot be one of them; `done` are those so far, reversed. -/
def readItems : Nat → Nat → List Value → Text → Read (List Value)
  | 0, _, _, _ => .error .absent
  | fuel + 1, depth, done, t =>
    match skipGaps false t with
    | none => .ok (done.reverse, t)
    | some t =>
      match readValue fuel depth t with
      | .error e => if e.settled then .error e else .ok (done.reverse, t)
      | .ok (v, rest) =>
        match skipGaps false rest with
        | some (',' :: rest) => readItems fuel depth (v :: done) rest
        | some rest => .ok ((v :: done).reverse, rest)
        | none => .ok ((v :: done).reverse, rest)

/-- The keys of an inline table with their values; `left` is the rest if no key begins here. -/
def readPairs : Nat → Nat → List (List Text × Value) → Text → Text →
    Except Fault (List (List Text × Value) × Text)
  | 0, _, _, _, _ => .error .absent
  | fuel + 1, depth, done, left, t =>
    match readKey t with
    | .error e => if e.settled then .error e else .ok (done.reverse, left)
    | .ok (parts, rest) => do
      let rest ← settle (afterKey rest)
      let (v, rest) ← settle (readValue fuel depth rest)
      let done := (parts, v) :: done
      match skipBlanks rest with
      | ',' :: more => readPairs fuel depth done (',' :: more) more
      | rest => pure (done.reverse, rest)

end

end Runbook.Toml
