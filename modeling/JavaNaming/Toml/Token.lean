import JavaNaming.Toml.Error

/-!
# Tokens of TOML documents

`Token.ofText` cuts a document into tokens, and together they cover it up to a leading byte order mark.
Cutting never fails: a string that does not end reaches to the end of its line or of the document, and
everything that is not special is part of an atom. The last token is `eof`.
-/

namespace JavaNaming.Toml

open Text (Range byteLength)

/-- The kinds of tokens. -/
inductive TokenKind where
  | dot
  | equals
  | comma
  | openBracket
  | closeBracket
  | openBrace
  | closeBrace
  | blank
  | comment
  | newline
  | string (form : StringForm)
  | atom
  | eof
deriving DecidableEq, Repr

namespace TokenKind

/-- Whether a token has no meaning of its own. -/
def isFiller : TokenKind → Bool
  | .blank | .comment | .newline | .eof => true
  | _ => false

end TokenKind

/-- A part of a document. -/
structure Token where
  kind : TokenKind
  start : Nat
  text : List Char
deriving DecidableEq, Repr

namespace Token

/-- The offset after a token. -/
def stop (t : Token) : Nat := t.start + byteLength t.text

/-- The place of a token. -/
def range (t : Token) : Range := Range.upTo t.start t.stop

/-- The characters that end an atom. -/
def isSpecial (c : Char) : Bool :=
  ['.', '=', ',', '[', ']', '\x7b', '\x7d', '#', ' ', '\t', '\r', '\n'].contains c

/-- The kind of a token that is one character. -/
def single? : Char → Option TokenKind
  | '.' => some .dot
  | '=' => some .equals
  | ',' => some .comma
  | '[' => some .openBracket
  | ']' => some .closeBracket
  | '\x7b' => some .openBrace
  | '\x7d' => some .closeBrace
  | _ => none

/-! ## Strings

The functions take the text after the opening quotes and give the length of the rest of the string. -/

/-- A literal string goes on to a quote or to the end of the line. -/
def literalLength : List Char → Nat
  | [] => 0
  | c :: cs => if c = '\'' then 1 else if c = '\n' then 0 else literalLength cs + 1

/-- A basic string goes on to a quote without a backslash or to the end of the line. -/
def basicLength : List Char → Nat
  | [] => 0
  | '\\' :: '\\' :: cs => basicLength cs + 2
  | '\\' :: '"' :: cs => basicLength cs + 2
  | c :: cs => if c = '"' then 1 else if c = '\n' then 0 else basicLength cs + 1

/-- After the closing quotes of a string of several lines stand at most two more quotes of its text. -/
def closingLength (quote : Char) (rest : List Char) : Nat :=
  3 + min 2 (rest.takeWhile (· == quote)).length

/-- A literal string of several lines goes on to three quotes. -/
def multiLineLiteralLength : List Char → Nat
  | [] => 0
  | '\'' :: '\'' :: '\'' :: cs => closingLength '\'' cs
  | _ :: cs => multiLineLiteralLength cs + 1

/-- A basic string of several lines goes on to three quotes, the first without a backslash. -/
def multiLineBasicLength : List Char → Nat
  | [] => 0
  | '\\' :: '\\' :: cs => multiLineBasicLength cs + 2
  | '\\' :: '"' :: cs => multiLineBasicLength cs + 2
  | '"' :: '"' :: '"' :: cs => closingLength '"' cs
  | _ :: cs => multiLineBasicLength cs + 1

/-! ## Cutting -/

/-- Whether a character is a blank. -/
def isBlank (c : Char) : Bool := c == ' ' || c == '\t'

/-- The kind and the length of the first token of a text that is not empty. -/
def first (c : Char) (cs : List Char) : TokenKind × Nat :=
  match single? c with
  | some kind => (kind, 1)
  | none =>
    if isBlank c then (.blank, 1 + (cs.takeWhile isBlank).length)
    else if c = '#' then (.comment, 1 + (cs.takeWhile fun d => d != '\r' && d != '\n').length)
    else if c = '\n' then (.newline, 1)
    else if c = '\r' then (.newline, if cs.head? = some '\n' then 2 else 1)
    else if c = '\'' then
      match cs with
      | '\'' :: '\'' :: rest => (.string .multiLineLiteral, 3 + multiLineLiteralLength rest)
      | _ => (.string .literal, 1 + literalLength cs)
    else if c = '"' then
      match cs with
      | '"' :: '"' :: rest => (.string .multiLineBasic, 3 + multiLineBasicLength rest)
      | _ => (.string .basic, 1 + basicLength cs)
    else (.atom, 1 + (cs.takeWhile fun d => !isSpecial d).length)

/-- The tokens of a text that starts at offset `here`. -/
def cut : Nat → Nat → List Char → List Token
  | _, here, [] => [⟨.eof, here, []⟩]
  | 0, here, _ :: _ => [⟨.eof, here, []⟩]
  | fuel + 1, here, c :: cs =>
    let (kind, length) := first c cs
    let token : Token := ⟨kind, here, (c :: cs).take length⟩
    token :: cut fuel token.stop ((c :: cs).drop length)

/-- The character that may stand in front of a document to mark its encoding. -/
def byteOrderMark : Char := '\uFEFF'

/-- The tokens of a document. -/
def ofText (document : List Char) : List Token :=
  match document with
  | c :: cs => if c = byteOrderMark then cut cs.length c.utf8Size cs else cut document.length 0 document
  | [] => cut 0 0 []

end Token

end JavaNaming.Toml
