import JavaNaming.Toml.Line

/-!
# Keys and strings of TOML documents

`Piece.key` and `Piece.string` give the text that a piece stands for. Basic strings have escapes, literal
strings have none. A string of several lines does not start with the end of a line, and a backslash at
the end of a line takes away the blanks and lines that follow it.
-/

namespace JavaNaming.Toml

open Text (Range byteLength)

/-! ## Characters -/

/-- Whether a character is visible or a blank. -/
def isVisible (c : Char) : Bool := isCommentCharacter c

/-- Whether a character may stand for itself in a basic string. -/
def isPlain (c : Char) : Bool := isVisible c && c != '"' && c != '\\'

/-- The value of a hexadecimal digit. -/
def hexValue? (c : Char) : Option Nat :=
  if c.isDigit then some (c.toNat - '0'.toNat)
  else if 'a' ≤ c ∧ c ≤ 'f' then some (c.toNat - 'a'.toNat + 10)
  else if 'A' ≤ c ∧ c ≤ 'F' then some (c.toNat - 'A'.toNat + 10)
  else none

/-- The number that hexadecimal digits write. -/
def hexNumber (digits : List Char) : Nat :=
  digits.foldl (fun n c => 16 * n + (hexValue? c).getD 0) 0

/-! ## Escapes -/

/-- The character that a letter stands for after a backslash. -/
def escaped? : Char → Option Char
  | 'b' => some '\x08'
  | 'e' => some '\x1b'
  | 'f' => some '\x0c'
  | 'n' => some '\n'
  | 'r' => some '\r'
  | 't' => some '\t'
  | '\\' => some '\\'
  | '"' => some '"'
  | _ => none

/-- The number of hexadecimal digits after a letter. -/
def escapeWidth? : Char → Option Nat
  | 'x' => some 2
  | 'u' => some 4
  | 'U' => some 8
  | _ => none

/-- The character that hexadecimal digits stand for; they start at offset `here`. -/
def hexEscape (here width : Nat) (digits : List Char) : Except FormError Char :=
  if digits.length < width then .error (.before .escapeTooShort (here + digits.length))
  else
    let n := hexNumber digits
    if h : n.isValidChar then .ok (Char.ofNatAux n h) else .error (.before .escapeInvalid here)

/-- The hexadecimal digits at the start of a text, at most `width`. -/
def hexDigits : Nat → List Char → List Char
  | 0, _ => []
  | _ + 1, [] => []
  | width + 1, c :: cs => if (hexValue? c).isSome then c :: hexDigits width cs else []

/-- The range of the characters at the start of a text that have a property. -/
def runRange (p : Char → Bool) (here : Nat) (cs : List Char) : Range :=
  Range.upTo here (here + byteLength (cs.takeWhile p))

/-! ## Basic strings -/

/-- The text of a basic string, without its quotes, that starts at offset `here`. -/
def basicText : Nat → Nat → List Char → Except FormError (List Char)
  | 0, here, _ => .error (.before (.stringCharacter .basic) here)
  | _ + 1, _, [] => .ok []
  | fuel + 1, here, '\\' :: cs =>
    match cs with
    | [] => .error (.before .escape (here + 1))
    | c :: cs =>
      match escaped? c, escapeWidth? c with
      | some d, _ => (basicText fuel (here + 2) cs).map (d :: ·)
      | none, some width => do
        let digits := hexDigits width cs
        let d ← hexEscape (here + 2) width digits
        let rest ← basicText fuel (here + 2 + width) (cs.drop width)
        return d :: rest
      | none, none => .error (.before .escape (here + 1))
  | fuel + 1, here, c :: cs =>
    if isPlain c then (basicText fuel (here + c.utf8Size) cs).map (c :: ·)
    else
      .error (.on (.stringCharacter .basic)
        (runRange (fun d => !isPlain d && d != '\\') here (c :: cs)))

/-- The text after the end of a line at its start, if it starts with one. -/
def dropNewline? : List Char → Option (List Char)
  | '\n' :: cs => some cs
  | '\r' :: '\n' :: cs => some cs
  | _ => none

/-- Whether a character is a blank or ends a line. -/
def isLayout (c : Char) : Bool := Token.isBlank c || c == '\n' || c == '\r'

/-- The text of a basic string of several lines, without its quotes, that starts at offset `here`. -/
def multiLineText : Nat → Nat → List Char → Except FormError (List Char)
  | 0, here, _ => .error (.before (.stringCharacter .multiLineBasic) here)
  | _ + 1, _, [] => .ok []
  | fuel + 1, here, '\\' :: cs =>
    match dropNewline? (cs.dropWhile Token.isBlank), cs with
    | some _, _ =>
      let rest := cs.dropWhile isLayout
      multiLineText fuel (here + 1 + (byteLength cs - byteLength rest)) rest
    | none, [] => .error (.before .escape (here + 1))
    | none, c :: cs =>
      match escaped? c, escapeWidth? c with
      | some d, _ => (multiLineText fuel (here + 2) cs).map (d :: ·)
      | none, some width => do
        let digits := hexDigits width cs
        let d ← hexEscape (here + 2) width digits
        let rest ← multiLineText fuel (here + 2 + width) (cs.drop width)
        return d :: rest
      | none, none => .error (.before .escape (here + 1))
  | fuel + 1, here, '\r' :: '\n' :: cs =>
    (multiLineText fuel (here + 2) cs).map ('\r' :: '\n' :: ·)
  | fuel + 1, here, c :: cs =>
    if isVisible c || c == '\n' then (multiLineText fuel (here + c.utf8Size) cs).map (c :: ·)
    else
      .error (.on (.stringCharacter .multiLineBasic)
        (runRange (fun d => !isVisible d && d != '\n') here (c :: cs)))

/-! ## Literal strings -/

/-- Whether a literal string has the characters that it may have; it starts at offset `here`. -/
def checkLiteral (here : Nat) : List Char → Except FormError Unit
  | [] => .ok ()
  | c :: cs =>
    if isVisible c then checkLiteral (here + c.utf8Size) cs
    else .error (.before (.stringCharacter .literal) here)

/-- Whether a literal string of several lines has the characters that it may have. -/
def checkMultiLineLiteral (here : Nat) : List Char → Except FormError Unit
  | [] => .ok ()
  | '\r' :: '\n' :: cs => checkMultiLineLiteral (here + 2) cs
  | c :: cs =>
    if isVisible c || c == '\n' then checkMultiLineLiteral (here + c.utf8Size) cs
    else .error (.before (.stringCharacter .multiLineLiteral) here)

/-! ## Pieces -/

/-- A text without a given end, if it has that end. -/
def dropEnd? (ending text : List Char) : Option (List Char) :=
  if ending.isSuffixOf text then some (text.take (text.length - ending.length)) else none

namespace Piece

/-- The text between the quotes of a string and the offset at which it starts. -/
def body (p : Piece) (form : StringForm) (quotes : List Char) :
    Except FormError (Nat × List Char) :=
  match dropEnd? quotes (p.text.drop quotes.length) with
  | some content => .ok (p.start + quotes.length, content)
  | none => .error (.before (.unfinishedString form) p.stop)

/-- The text between the quotes of a string of several lines, from its first line on. -/
def multiLineBody (p : Piece) (form : StringForm) (quotes : List Char) :
    Except FormError (Nat × List Char) := do
  let (here, content) ← p.body form quotes
  match dropNewline? content with
  | some rest => return (here + (content.length - rest.length), rest)
  | none => return (here, content)

/-- The text of a string. -/
def string (p : Piece) (form : StringForm) : Except FormError (List Char) := do
  match form with
  | .basic =>
    let (here, content) ← p.body form ['"']
    basicText (content.length + 1) here content
  | .literal =>
    let (here, content) ← p.body form ['\'']
    checkLiteral here content
    return content
  | .multiLineBasic =>
    let (here, content) ← p.multiLineBody form ['"', '"', '"']
    multiLineText (content.length + 1) here content
  | .multiLineLiteral =>
    let (here, content) ← p.multiLineBody form ['\'', '\'', '\'']
    checkMultiLineLiteral here content
    return content

/-- Whether a character may stand in a key without quotes. -/
def isKeyCharacter (c : Char) : Bool := c.isAlphanum || c == '-' || c == '_'

/-- Whether a key without quotes has the characters that it may have; it starts at offset `here`. -/
def checkBareKey (here : Nat) : List Char → Except FormError Unit
  | [] => .ok ()
  | c :: cs =>
    if isKeyCharacter c then checkBareKey (here + c.utf8Size) cs
    else .error (.on .keyCharacter (Range.upTo here (here + c.utf8Size)))

/-- The text of a key. -/
def key (p : Piece) : Except FormError (List Char) :=
  match p.form? with
  | none =>
    if p.text.isEmpty then .error (.before .emptyKey p.start)
    else (checkBareKey p.start p.text).map fun _ => p.text
  | some .multiLineBasic => .error (.on (.multiLineKey .multiLineBasic) p.range)
  | some .multiLineLiteral => .error (.on (.multiLineKey .multiLineLiteral) p.range)
  | some form => p.string form

end Piece

end JavaNaming.Toml
