import JavaNaming.Toml.Token

/-!
# Lines of TOML documents

`Line.ofTokens` groups the tokens of a document into headers and entries. It decides where keys and
values stand and does not look into them, so that keys and scalars are kept as they are written. A
key or scalar that is missing where one has to stand is kept as an empty one.
-/

namespace JavaNaming.Toml

open Text (Range)

/-- A key or scalar as it is written. -/
structure Piece where
  start : Nat
  text : List Char
  /-- The form of a string; other pieces have none. -/
  form? : Option StringForm
deriving DecidableEq, Repr

namespace Piece

/-- The piece that a token is. -/
def ofToken (t : Token) : Piece :=
  match t.kind with
  | .string form => ⟨t.start, t.text, some form⟩
  | _ => ⟨t.start, t.text, none⟩

/-- A piece that is missing at an offset. -/
def missing (offset : Nat) : Piece := ⟨offset, [], none⟩

/-- The offset after a piece. -/
def stop (p : Piece) : Nat := p.start + Text.byteLength p.text

/-- The place of a piece. -/
def range (p : Piece) : Range := Range.upTo p.start p.stop

end Piece

/-- A value as it is written. Entries have dotted keys. -/
inductive Written where
  | scalar (piece : Piece)
  | array (range : Range) (items : List Written)
  | table (range : Range) (entries : List (List Piece × Written))

/-- A header or an entry. -/
inductive Line where
  | table (range : Range) (keys : List Piece)
  | arrayTable (range : Range) (keys : List Piece)
  | entry (keys : List Piece) (value : Written)

/-! ## The tokens that are left -/

/-- The tokens that are left, and the offset after the last one that was no filler. -/
structure Rest where
  tokens : List Token
  solidStop : Nat

namespace Rest

/-- The next token. -/
def head (r : Rest) : Token := r.tokens.head?.getD ⟨.eof, r.solidStop, []⟩

/-- The rest without the next token. -/
def next (r : Rest) : Rest :=
  ⟨r.tokens.tail, if r.head.kind.isFiller then r.solidStop else r.head.stop⟩

/-- The rest without blanks in front. -/
def skipBlank (r : Rest) : Rest := if r.head.kind = .blank then r.next else r

/-- The rest from the end of the line on. -/
def skipLine (r : Rest) : Rest :=
  ⟨r.tokens.dropWhile fun t => t.kind ≠ .newline ∧ t.kind ≠ .eof, r.solidStop⟩

end Rest

/-! ## Comments and ends of lines -/

/-- Whether a character may stand in a comment. -/
def isCommentCharacter (c : Char) : Bool :=
  c == '\t' || ('\x20' ≤ c && c ≤ '\x7e') || '\x7f' < c

/-- The offset of the first character of a text that may not stand in a comment. -/
def commentFlaw? (here : Nat) : List Char → Option Nat
  | [] => none
  | c :: cs => if isCommentCharacter c then commentFlaw? (here + c.utf8Size) cs else some here

/-- Look into a token that separates others. -/
def checkFiller (t : Token) : Except FormError Unit :=
  match t.kind with
  | .comment =>
    match commentFlaw? t.start t.text with
    | some offset => .error (.before .commentCharacter offset)
    | none => .ok ()
  | .newline => if t.text = ['\r'] then .error (.before .loneCarriageReturn t.stop) else .ok ()
  | _ => .ok ()

/-- Pass the end of a line, with the comment in front of it. -/
def endLine (r : Rest) : Except FormError Rest := do
  let r := r.skipBlank
  checkFiller r.head
  let r := if r.head.kind = .comment then r.next else r
  checkFiller r.head
  match r.head.kind with
  | .newline => return r.next
  | .eof => return r
  | _ => throw (.before .contentAfterLine r.head.start)

/-! ## Keys -/

/-- Read one part of a dotted key after those in `seen`, which are in reverse. Dots without a key
between them have a missing key there. The result says whether a part was found. -/
def readPart : Nat → Rest → List Piece → List Piece × Bool × Rest
  | 0, r, seen => (seen, false, r)
  | fuel + 1, r, seen =>
    match r.head.kind with
    | .blank => readPart fuel r.next seen
    | .dot => readPart fuel r.next (.missing r.head.start :: seen)
    | .string _ | .atom => (.ofToken r.head :: seen, true, r.next)
    | _ => (.missing r.head.start :: seen, false, r)

/-- Read the parts of a dotted key that follow those in `seen`. -/
def readDotted : Nat → Rest → List Piece → List Piece × Bool × Rest
  | 0, r, seen => (seen, true, r)
  | fuel + 1, r, seen =>
    if r.skipBlank.head.kind = .dot then
      match readPart fuel r.skipBlank.next seen with
      | (seen, true, r) => readDotted fuel r seen
      | result => result
    else (seen, true, r.skipBlank)

/-- Read a dotted key. The result says whether its last part was found. -/
def readKey (r : Rest) : List Piece × Bool × Rest :=
  let fuel := r.tokens.length + 1
  match readPart fuel r [] with
  | (seen, true, r) =>
    let (seen, found, r) := readDotted fuel r seen
    (seen.reverse, found, r)
  | (seen, false, r) => (seen.reverse, false, r)

/-! ## Values -/

/-- Read the parts of a scalar that has no quotes after those in `text`. A blank is part of it if more
text follows. -/
def readBare : Nat → Rest → List Char → List Char × Rest
  | 0, r, text => (text, r)
  | fuel + 1, r, text =>
    match r.head.kind with
    | .dot | .atom => readBare fuel r.next (text ++ r.head.text)
    | .blank =>
      if r.next.head.kind = .atom then
        readBare fuel r.next.next (text ++ r.head.text ++ r.next.head.text)
      else (text, r)
    | _ => (text, r)

/-- Read a scalar. -/
def readScalar (r : Rest) : Piece × Rest :=
  match r.head.kind with
  | .string _ => (.ofToken r.head, r.next)
  | _ =>
    let (text, rest) := readBare (r.tokens.length + 1) r []
    (⟨r.head.start, text, none⟩, rest)

/-- How deep arrays and inline tables may be nested. -/
def depthLimit : Nat := 80

/-- What the elements of an array that were read so far ask for. -/
inductive ArrayNeed where
  | value
  | comma
deriving DecidableEq

/-- What an inline table has been read up to. -/
inductive TableState where
  | needsKey
  | needsEquals (keys : List Piece)
  | needsValue (keys : List Piece)
  | needsComma

namespace TableState

/-- What can come next. -/
def wanted : TableState → EntryPart
  | needsKey => .key
  | needsEquals _ => .equals
  | needsValue _ => .value
  | needsComma => .comma

/-- The flaw of a value in a place where none can stand. -/
def misplacedValue : TableState → Flaw
  | needsKey => .missingKey
  | needsEquals _ => .missingAssignment
  | needsValue _ => .invalidElement .value
  | needsComma => .missingCommaInTable

end TableState

mutual

/-- Read a value. -/
def readValue : Nat → Nat → Rest → Except FormError (Written × Rest)
  | 0, _, r => .error (.before .tooDeep r.head.start)
  | fuel + 1, depth, r =>
    match r.head.kind with
    | .comment | .comma | .newline | .eof => .ok (.scalar (.missing r.head.start), r)
    | .equals => .error (.on .extraEquals r.head.range)
    | .closeBrace => .error (.before .unopenedInlineTable r.head.start)
    | .closeBracket => .error (.before .unopenedArray r.head.start)
    | .openBracket =>
      if depth < depthLimit then readArray fuel (depth + 1) r.head.start r.next .value []
      else .error (.on .tooDeep r.head.range)
    | .openBrace =>
      if depth < depthLimit then readTable fuel (depth + 1) r.head.start r.next .needsKey []
      else .error (.on .tooDeep r.head.range)
    | _ =>
      let (piece, r) := readScalar r
      .ok (.scalar piece, r)

/-- Read the elements of an array after those in `items`, which are in reverse. -/
def readArray : Nat → Nat → Nat → Rest → ArrayNeed → List Written →
    Except FormError (Written × Rest)
  | 0, _, _, r, _, _ => .error (.before .unclosedArray r.solidStop)
  | fuel + 1, depth, start, r, need, items => do
    checkFiller r.head
    match r.head.kind with
    | .blank | .comment | .newline => readArray fuel depth start r.next need items
    | .eof => throw (.before .unclosedArray r.solidStop)
    | .comma =>
      match need with
      | .value => throw (.on .extraCommaInArray r.head.range)
      | .comma => readArray fuel depth start r.next .value items
    | .equals => throw (.on .equalsInArray r.head.range)
    | .closeBracket => return (.array (Range.upTo start r.head.stop) items.reverse, r.next)
    | _ =>
      if need = .comma then throw (.before .missingCommaInArray r.head.start)
      let (item, r) ← readValue fuel depth r
      readArray fuel depth start r .comma (item :: items)

/-- Read the entries of an inline table after those in `entries`, which are in reverse. -/
def readTable : Nat → Nat → Nat → Rest → TableState → List (List Piece × Written) →
    Except FormError (Written × Rest)
  | 0, _, _, r, _, _ => .error (.before .unclosedInlineTable r.solidStop)
  | fuel + 1, depth, start, r, state, entries => do
    checkFiller r.head
    match r.head.kind, state with
    | .blank, _ | .comment, _ | .newline, _ => readTable fuel depth start r.next state entries
    | .eof, _ => throw (.before .unclosedInlineTable r.solidStop)
    | .comma, .needsComma => readTable fuel depth start r.next .needsKey entries
    | .comma, _ => throw (.before (.extraCommaInTable state.wanted) r.head.start)
    | .equals, .needsKey => throw (.before .missingKey r.head.start)
    | .equals, .needsEquals keys => readTable fuel depth start r.next (.needsValue keys) entries
    | .equals, _ => throw (.before (.extraAssignment state.wanted) r.head.start)
    | .closeBrace, _ =>
      let entries :=
        match state with
        | .needsEquals keys | .needsValue keys =>
          (keys, Written.scalar (.missing r.head.start)) :: entries
        | _ => entries
      return (.table (Range.upTo start r.head.stop) entries.reverse, r.next)
    | .closeBracket, _ => throw (.before (.invalidElement state.wanted) r.head.start)
    | _, .needsValue keys =>
      let (value, r) ← readValue fuel depth r
      readTable fuel depth start r .needsComma ((keys, value) :: entries)
    | .openBracket, _ | .openBrace, _ => throw (.before state.misplacedValue r.head.start)
    | _, .needsKey =>
      let (keys, _, r) := readKey r
      readTable fuel depth start r (.needsEquals keys) entries
    | _, _ => throw (.before state.misplacedValue r.head.start)

end

/-! ## Lines -/

/-- Read a header from its first bracket on. -/
def readHeader (r : Rest) : Except FormError (Line × Rest) := do
  let start := r.head.start
  let ofArray := decide (r.next.head.kind = .openBracket)
  let (keys, found, r) := readKey (if ofArray then r.next.next else r.next).skipBlank
  let r := r.skipBlank
  let header := fun stop : Nat =>
    if ofArray then Line.arrayTable (Range.upTo start stop) keys
    else Line.table (Range.upTo start stop) keys
  if r.head.kind = .closeBracket then
    let r := r.next
    if !ofArray then
      return (header r.solidStop, ← endLine r)
    else if r.head.kind = .closeBracket then
      return (header r.next.solidStop, ← endLine r.next)
    else throw (.before (.unclosedArrayTable "]") r.solidStop)
  else if found then
    throw (.before (if ofArray then .unclosedArrayTable "]]" else .unclosedTable) r.solidStop)
  else return (header r.solidStop, r.skipLine)

/-- Read an entry. -/
def readEntry (r : Rest) : Except FormError (Line × Rest) := do
  let bare := decide (r.head.kind = .equals)
  let dotted := decide (r.head.kind = .dot)
  let (keys, _, r) := if bare then ([.missing r.head.start], true, r) else readKey r
  let r := r.skipBlank
  if r.head.kind ≠ .equals then
    throw (.before (if dotted then .missingValue else .keyWithoutValue) r.head.start)
  let (value, r) ← readValue (2 * r.tokens.length + 2) 0 r.next.skipBlank
  return (.entry keys value, ← endLine r)

namespace Line

/-- Read lines after those in `lines`, which are in reverse. -/
def read : Nat → Rest → List Line → Except FormError (List Line)
  | 0, _, lines => .ok lines.reverse
  | fuel + 1, r, lines => do
    checkFiller r.head
    match r.head.kind with
    | .eof => return lines.reverse
    | .blank | .comment | .newline => read fuel r.next lines
    | .closeBracket => throw (.before .unopenedTable r.head.start)
    | .comma | .openBrace | .closeBrace => throw (.before .invalidPair r.head.start)
    | .openBracket =>
      let (line, r) ← readHeader r
      read fuel r (line :: lines)
    | _ =>
      let (line, r) ← readEntry r
      read fuel r (line :: lines)

/-- The lines of a document. -/
def ofTokens (tokens : List Token) : Except FormError (List Line) :=
  read (tokens.length + 1) ⟨tokens, 0⟩ []

end Line

end JavaNaming.Toml
