import JavaNaming.Xml.Attribute
import JavaNaming.Xml.Reference

/-!
# XML documents as events

`Event.ofText` reads a document as the start and end of its elements and the text between them. Comments,
processing instructions and declarations leave no event. A tag that closes itself is a start and an
end. The last event is `finish`, or `halt` where the document cannot be read on.
-/

namespace JavaNaming.Xml

open Text (Range byteLength)

/-- A start tag: its name, and its text after the name. -/
structure Tag where
  name : List Char
  rest : List Char
deriving DecidableEq, Repr

/-- A part of a document. -/
inductive Part where
  | start (tag : Tag)
  | stop (name : List Char)
  | text (content : List Char)
  | reference (name : List Char)
  | doctype
  | halt (e : XmlError)
  | finish
deriving Repr

/-- A part of a document, with consecutive text in one. -/
inductive Event where
  | start (tag : Tag)
  | stop (name : List Char)
  | text (content : Except EscapeError (List Char))
  | halt (e : XmlError)
  | finish

/-! ## Where markup ends -/

/-- The tag at the start of a text up to its closing bracket, and the text after it. Brackets between
quotes do not count; `quote?` is the quote that is open. -/
def splitTag (quote? : Option Char) : List Char → Except MarkupError (List Char × List Char)
  | [] =>
    match quote? with
    | some quote => .error (.quotedValue quote)
    | none => .error .tag
  | c :: cs =>
    match quote? with
    | none =>
      if c = '>' then .ok ([], cs)
      else
        (splitTag (if c = '"' ∨ c = '\'' then some c else none) cs).map fun (a, b) => (c :: a, b)
    | some quote => (splitTag (if c = quote then none else quote?) cs).map fun (a, b) => (c :: a, b)

/-- The text in front of an ending, at the earliest after `least` characters, and the text after the
ending. -/
def splitAtEnding (ending : List Char) : Nat → List Char → Option (List Char × List Char)
  | _, [] => none
  | 0, c :: cs =>
    if ending.isPrefixOf (c :: cs) then some ([], (c :: cs).drop ending.length)
    else (splitAtEnding ending 0 cs).map fun (a, b) => (c :: a, b)
  | least + 1, c :: cs => (splitAtEnding ending least cs).map fun (a, b) => (c :: a, b)

/-- What a document type declaration has been read up to. -/
inductive DoctypeState where
  | outside
  | outsideQuote (quote : Char)
  | subset
  | markup
  | markupQuote (quote : Char)
  | comment
  | instruction

/-- The declaration at the start of a text up to its closing bracket, and the text after it. Brackets
in the declarations inside of it, in quotes and in comments do not count. -/
def splitDoctype : DoctypeState → List Char → Option (List Char × List Char)
  | _, [] => none
  | .outside, '>' :: cs => some ([], cs)
  | .comment, '-' :: '-' :: '>' :: cs =>
    (splitDoctype .subset cs).map fun (a, b) => ('-' :: '-' :: '>' :: a, b)
  | .instruction, '?' :: '>' :: cs =>
    (splitDoctype .subset cs).map fun (a, b) => ('?' :: '>' :: a, b)
  | .subset, '<' :: '!' :: '-' :: '-' :: cs =>
    (splitDoctype .comment cs).map fun (a, b) => ('<' :: '!' :: '-' :: '-' :: a, b)
  | .subset, '<' :: '?' :: cs =>
    (splitDoctype .instruction cs).map fun (a, b) => ('<' :: '?' :: a, b)
  | state, c :: cs =>
    let next :=
      match state with
      | .outside =>
        if c = '"' ∨ c = '\'' then .outsideQuote c else if c = '[' then .subset else .outside
      | .outsideQuote quote => if c = quote then .outside else state
      | .subset => if c = ']' then .outside else if c = '<' then .markup else .subset
      | .markup =>
        if c = '"' ∨ c = '\'' then .markupQuote c else if c = '>' then .subset else .markup
      | .markupQuote quote => if c = quote then .markup else state
      | other => other
    (splitDoctype next cs).map fun (a, b) => (c :: a, b)

/-! ## Parts -/

/-- A text with every end of a line as a line feed. -/
def normalLines : List Char → List Char
  | [] => []
  | '\r' :: '\n' :: cs => '\n' :: normalLines cs
  | c :: cs => (if c = '\r' then '\n' else c) :: normalLines cs

/-- A text without the blanks at its end, unless there is nothing else. -/
def trimEnd (text : List Char) : List Char :=
  match (text.reverse.dropWhile isBlank).reverse with
  | [] => text
  | trimmed => trimmed

/-- What is read at a time: parts, the names of the open elements, innermost first, and the text that is
left. There is no text after the last part. -/
structure Progress where
  parts : List Part
  opened : List (List Char)
  rest? : Option (List Char)

namespace Progress

/-- The document ends or cannot be read on. -/
def last (part : Part) : Progress := ⟨[part], [], none⟩

/-- Markup is not right. -/
def markup (e : MarkupError) : Progress := last (.halt (.badMarkup e))

/-- Markup does not fit. -/
def nesting (e : NestingError) : Progress := last (.halt (.badNesting e))

end Progress

/-- Read an end tag, after its slash. -/
def readEnd (opened : List (List Char)) (cs : List Char) : Progress :=
  match splitTag none cs with
  | .error e => .markup e
  | .ok (content, rest) =>
    let name := trimEnd content
    match opened with
    | [] => .nesting (.unmatchedEnd (String.ofList name))
    | top :: opened =>
      if name = top then ⟨[.stop name], opened, some rest⟩
      else .nesting (.mismatchedEnd (String.ofList top) (String.ofList name))

/-- Read a start tag. -/
def readStart (opened : List (List Char)) (cs : List Char) : Progress :=
  match splitTag none cs with
  | .error e => .markup e
  | .ok (content, rest) =>
    let closed := decide (content.getLast? = some '/')
    let content := if closed then content.dropLast else content
    let name := content.takeWhile fun c => !isBlank c
    let tag : Tag := ⟨name, content.drop name.length⟩
    if closed then ⟨[.start tag, .stop name], opened, some rest⟩
    else ⟨[.start tag], name :: opened, some rest⟩

/-- Read a comment, from its exclamation mark on. -/
def readComment (opened : List (List Char)) (cs : List Char) : Progress :=
  match splitAtEnding "-->".toList 3 cs with
  | some (content, rest) =>
    if "!--".toList.isPrefixOf content then ⟨[], opened, some rest⟩ else .markup .comment
  | none => .markup .comment

/-- Read text that is marked as such, from its exclamation mark on. -/
def readCharacterData (opened : List (List Char)) (cs : List Char) : Progress :=
  match splitAtEnding "]]>".toList 0 cs with
  | some (content, rest) =>
    if "![CDATA[".toList.isPrefixOf content then
      ⟨[.text (normalLines (content.drop 8))], opened, some rest⟩
    else .markup .cdata
  | none => .markup .cdata

/-- Read a document type declaration, from its exclamation mark on. -/
def readDoctype (opened : List (List Char)) (cs : List Char) : Progress :=
  match splitDoctype .outside cs with
  | some (content, rest) =>
    if (content.take 8).map Char.toUpper = "!DOCTYPE".toList then
      if (content.drop 8).all isBlank then .nesting .unnamedDoctype
      else ⟨[.doctype], opened, some rest⟩
    else .markup .doctype
  | none => .markup .doctype

/-- Whether a text starts with a word and a blank, or is the word. -/
def startsWithWord (word text : List Char) : Bool :=
  word.isPrefixOf text && ((text.drop word.length).head?.all isBlank)

/-- Read a processing instruction, from its question mark on. -/
def readInstruction (opened : List (List Char)) (cs : List Char) : Progress :=
  match splitAtEnding "?>".toList 0 cs with
  | some ([], _) => .markup .instruction
  | some (_, rest) => ⟨[], opened, some rest⟩
  | none => .markup (if startsWithWord "?xml".toList cs then .declaration else .instruction)

/-- Read markup, after its opening bracket. -/
def readMarkup (opened : List (List Char)) (cs : List Char) : Progress :=
  match cs with
  | [] => .markup .tag
  | '/' :: rest => readEnd opened rest
  | '?' :: _ => readInstruction opened cs
  | '!' :: '[' :: _ => readCharacterData opened cs
  | '!' :: '-' :: _ => readComment opened cs
  | '!' :: 'D' :: _ | '!' :: 'd' :: _ => readDoctype opened cs
  | '!' :: _ => .markup .unknown
  | _ => readStart opened cs

/-- Read a reference, after its ampersand. -/
def readReference (opened : List (List Char)) (cs : List Char) : Progress :=
  let name := cs.takeWhile fun c => c != ';' && c != '&' && c != '<'
  match cs.drop name.length with
  | ';' :: rest => ⟨[.reference name], opened, some rest⟩
  | _ => .nesting .unclosedReference

/-- Read what comes next. -/
def readPart (opened : List (List Char)) (cs : List Char) : Progress :=
  match cs with
  | [] => .last .finish
  | '<' :: rest => readMarkup opened rest
  | '&' :: rest => readReference opened rest
  | _ =>
    let run := cs.takeWhile fun c => c != '<' && c != '&'
    ⟨[.text (normalLines run)], opened, some (cs.drop run.length)⟩

/-- The parts of a text. -/
def readParts : Nat → List (List Char) → List Char → List Part
  | 0, _, _ => [.finish]
  | fuel + 1, opened, cs =>
    let progress := readPart opened cs
    match progress.rest? with
    | none => progress.parts
    | some rest => progress.parts ++ readParts fuel progress.opened rest

/-- The character that may stand in front of a document to mark its encoding. -/
def byteOrderMark : Char := '\uFEFF'

/-- The parts of a document. -/
def partsOf (document : List Char) : List Part :=
  let content := if document.head? = some byteOrderMark then document.tail else document
  readParts (content.length + 1) [] content

/-! ## Events -/

/-- Text and then some events, which start with text that belongs to it if `joined`. -/
def joinText (joined : Bool) (first : Except EscapeError (List Char)) : List Event → List Event
  | .text second :: events =>
    if joined then .text (do let a ← first; let b ← second; return a ++ b) :: events
    else .text first :: .text second :: events
  | events => .text first :: events

/-- Whether parts start with text. -/
def startsWithText : List Part → Bool
  | .text _ :: _ | .reference _ :: _ => true
  | _ => false

/-- The character that a reference in a text stands for. -/
def referenceText (name : List Char) : Except EscapeError (List Char) :=
  (resolve (Range.upTo 0 (byteLength name)) name).map ([·])

/-- The events of some parts. Text is joined, but not around a document type declaration. -/
def eventsOf : List Part → List Event
  | [] => []
  | .start tag :: parts => .start tag :: eventsOf parts
  | .stop name :: parts => .stop name :: eventsOf parts
  | .halt e :: parts => .halt e :: eventsOf parts
  | .finish :: parts => .finish :: eventsOf parts
  | .doctype :: parts => eventsOf parts
  | .text content :: parts => joinText (startsWithText parts) (.ok content) (eventsOf parts)
  | .reference name :: parts => joinText (startsWithText parts) (referenceText name) (eventsOf parts)

/-- The events of a document. -/
def Event.ofText (document : List Char) : List Event := eventsOf (partsOf document)

end JavaNaming.Xml
