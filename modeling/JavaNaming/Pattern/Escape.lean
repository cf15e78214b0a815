import JavaNaming.Pattern.Reader

/-!
# Escapes

What a backslash starts: characters by number, classes, conditions on places, and characters that
would mean something else without it.
-/

namespace JavaNaming.Pattern

/-- Whether a character has a meaning of its own in some part of a pattern. -/
def isMeta (c : Char) : Bool :=
  ['\\', '.', '+', '*', '?', '(', ')', '|', '[', ']', '{', '}', '^', '$', '#', '&', '-', '~'].contains c

/-- Whether a character may stand after a backslash for itself. -/
def isEscapable (c : Char) : Bool :=
  isMeta c || (c.toNat < 128 && !c.isAlphanum && c != '<' && c != '>')

/-- Whether a character is a hexadecimal digit. -/
def isHexDigit (c : Char) : Bool :=
  c.isDigit || ('a' ≤ c && c ≤ 'f') || ('A' ≤ c && c ≤ 'F')

/-- The value of a hexadecimal digit. -/
def hexValue (c : Char) : Nat :=
  if c.isDigit then c.toNat - '0'.toNat
  else if c.isLower then c.toNat - 'a'.toNat + 10
  else c.toNat - 'A'.toNat + 10

/-- The character with the given hexadecimal number. -/
def hexChar? (digits : List Char) : Option Char :=
  let n := digits.foldl (fun acc c => acc * 16 + hexValue c) 0
  if n.isValidChar then some (Char.ofNat n) else none

/-- Read exactly `n` more hexadecimal digits. -/
def readHexDigits : Nat → Reader → Read (List Char × Reader)
  | 0, r => .ok ([], r)
  | n + 1, r =>
    match r.char? with
    | none => fail .escapeUnfinished r.here
    | some c =>
      if isHexDigit c then do
        let (digits, r) ← readHexDigits n r.bumpSkip
        return (c :: digits, r)
      else fail .hexDigitInvalid r.charSpan

/-- Read characters up to a closing brace, from the character before the first of them. A number
allows only hexadecimal digits there. Without a brace the error points to the `unfinished` part. -/
def readBraced (allowed : Char → Bool) (unfinished : Reader → Span) :
    Nat → Reader → Read (List Char × Reader)
  | 0, r => .ok ([], r)
  | fuel + 1, r =>
    let r := r.bumpSkip
    match r.char? with
    | none => fail .escapeUnfinished (unfinished r)
    | some '}' => .ok ([], r)
    | some c =>
      if allowed c then do
        let (cs, r) ← readBraced allowed unfinished fuel r
        return (c :: cs, r)
      else fail .hexDigitInvalid r.charSpan

/-- Read a character by its number. The reader is at the letter after the backslash, which says how
many digits there are without braces. -/
def readHex (start : Spot) (r : Reader) : Read (Literal × Reader) := do
  let count := if r.sees 'x' then 2 else if r.sees 'u' then 4 else 8
  let r := r.bumpSkip
  if r.atEnd then fail .escapeUnfinished r.here
  else if r.sees '{' then
    let brace := r.spot
    let first := r.bump.spot
    let (digits, r) ← readBraced isHexDigit (·.since brace) (r.rest.length + 1) r
    let last := r.spot
    let r := r.bumpSkip
    if digits.isEmpty then fail .hexEmpty (r.since brace)
    else
      match hexChar? digits with
      | some c => return (⟨r.since start, c, false⟩, r)
      | none => fail .hexInvalid ⟨first, last⟩
  else
    let first := r.spot
    let (digits, r) ← readHexDigits count r
    match hexChar? digits with
    | some c => return (⟨r.since start, c, count = 2⟩, r)
    | none => fail .hexInvalid (r.since first)

/-- Divide a text at the first place where a given text stands. -/
def splitAt? (mark : List Char) : List Char → Option (List Char × List Char)
  | [] => none
  | c :: cs =>
    if mark.isPrefixOf (c :: cs) then some ([], (c :: cs).drop mark.length)
    else (splitAt? mark cs).map fun (a, b) => (c :: a, b)

/-- What is asked for between the braces of a property. -/
def PropertyQuery.ofText (text : List Char) : PropertyQuery :=
  match ((splitAt? ['!', '='] text).or (splitAt? [':'] text)).or (splitAt? ['='] text) with
  | some (name, value) => .valued name value
  | none => .named text

/-- Read a property. The reader is at the letter after the backslash. -/
def readProperty (start : Spot) (r : Reader) : Read ((Span × PropertyQuery × Bool) × Reader) := do
  let negated := r.sees 'P'
  let r := r.bumpSkip
  match r.char? with
  | none => fail .escapeUnfinished r.here
  | some '{' =>
    let (text, r) ← readBraced (fun _ => true) (·.here) (r.rest.length + 1) r
    let r := r.bump
    return ((r.since start, .ofText text, negated), r)
  | some '\\' => fail .propertyInvalid r.charSpan
  | some c =>
    let r := r.bumpSkip
    return ((r.since start, .named [c], negated), r)

/-- Whether a character may stand in the name of a word boundary. -/
def isBoundaryChar (c : Char) : Bool := c.isAlpha || c == '-'

/-- The word boundary with a given name. -/
def boundary? : String → Option Assertion
  | "start" => some .wordStart
  | "end" => some .wordEnd
  | "start-half" => some .wordStartHalf
  | "end-half" => some .wordEndHalf
  | _ => none

/-- Read the name of a word boundary in braces. There is none if the first character in the braces
cannot start one; the braces then hold a count. -/
def readBoundary (start : Spot) (r : Reader) : Read (Option Assertion × Reader) :=
  let brace := r.spot
  let inner := r.bumpSkip
  match inner.char? with
  | none => fail .wordBoundaryUnfinished (inner.since start)
  | some c =>
    if !isBoundaryChar c then .ok (none, r)
    else
      let (name, after) := inner.takeWhile isBoundaryChar (inner.rest.length + 1)
      if !after.sees '}' then fail .wordBoundaryUnclosed (after.since brace)
      else
        match boundary? (String.ofList name) with
        | some kind => .ok (some kind, after.bump)
        | none => fail .wordBoundaryUnrecognized (after.since inner.spot)

/-- The characters with a letter of their own. -/
def controlChar? : Char → Option Char
  | 'a' => some '\x07'
  | 'f' => some '\x0c'
  | 't' => some '\t'
  | 'n' => some '\n'
  | 'r' => some '\r'
  | 'v' => some '\x0b'
  | _ => none

/-- The conditions with a letter of their own. -/
def assertion? : Char → Option Assertion
  | 'A' => some .startText
  | 'z' => some .endText
  | 'b' => some .wordBoundary
  | 'B' => some .notWordBoundary
  | '<' => some .wordStart
  | '>' => some .wordEnd
  | _ => none

/-- The classes with a letter of their own, a capital one for the complement. -/
def shorthand? : Char → Option (Shorthand × Bool)
  | 'd' => some (.digit, false)
  | 's' => some (.space, false)
  | 'w' => some (.word, false)
  | 'D' => some (.digit, true)
  | 'S' => some (.space, true)
  | 'W' => some (.word, true)
  | _ => none

/-- Read an escape. The reader is at the backslash. -/
def readEscape (r : Reader) : Read (Expr × Reader) := do
  let start := r.spot
  let r := r.bump
  match r.char? with
  | none => fail .escapeUnfinished (r.since start)
  | some c =>
    let past := r.bump
    let span := past.since start
    if c.isDigit then fail .backreference span
    else if c == 'x' || c == 'u' || c == 'U' then
      let (l, r) ← readHex start r
      return (.literal l, r)
    else if c == 'p' || c == 'P' then
      let ((span, query, negated), r) ← readProperty start r
      return (.property span query negated, r)
    else if let some (kind, negated) := shorthand? c then
      return (.shorthand span kind negated, past)
    else if isEscapable c then return (.literal ⟨span, c, false⟩, past)
    else if let some d := controlChar? c then return (.literal ⟨span, d, false⟩, past)
    else if let some kind := assertion? c then
      if c == 'b' && past.sees '{' then
        let (special, r) ← readBoundary start past
        return (.assertion (if special.isSome then r.since start else span)
          (special.getD kind), r)
      else return (.assertion span kind, past)
    else fail .escapeUnrecognized span

end JavaNaming.Pattern
