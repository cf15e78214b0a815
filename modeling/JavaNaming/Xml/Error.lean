import JavaNaming.Text.Offset

/-!
# Errors in XML documents

An error is one of markup that does not end, of tags and references that do not fit, of attributes, or
of escapes. `XmlError.causes` lists its wording at each level of detail, the most general first.
-/

namespace JavaNaming.Xml

/-- Markup that is not known or does not end. -/
inductive MarkupError where
  | unknown
  | instruction
  | declaration
  | comment
  | doctype
  | cdata
  | tag
  | quotedValue (quote : Char)
deriving DecidableEq, Repr

/-- The wording of the error. -/
def MarkupError.message : MarkupError → String
  | unknown => "unknown or missed symbol in markup"
  | instruction => "processing instruction not closed: `?>` not found before end of input"
  | declaration => "XML declaration not closed: `?>` not found before end of input"
  | comment => "comment not closed: `-->` not found before end of input"
  | doctype => "DOCTYPE not closed: `>` not found before end of input"
  | cdata => "CDATA not closed: `]]>` not found before end of input"
  | tag => "tag not closed: `>` not found before end of input"
  | quotedValue quote => s!"attribute value not closed: `{quote}` not found before end of input"

/-- Markup that does not fit into its place. -/
inductive NestingError where
  | unnamedDoctype
  | missingEnd (name : String)
  | unmatchedEnd (name : String)
  | mismatchedEnd (expected found : String)
  | unclosedReference
deriving DecidableEq, Repr

/-- The wording of the error. -/
def NestingError.message : NestingError → String
  | unnamedDoctype => "`<!DOCTYPE>` declaration does not contain a name of a document type"
  | missingEnd name => s!"start tag not closed: `</{name}>` not found before end of input"
  | unmatchedEnd name => s!"close tag `</{name}>` does not match any open tag"
  | mismatchedEnd expected found => s!"expected `</{expected}>`, but `</{found}>` was found"
  | unclosedReference =>
    "entity or character reference not closed: `;` not found before end of input"

/-- An attribute that is not well-formed, with its position in the tag. -/
inductive AttributeError where
  | missingEquals (position : Nat)
  | missingValue (position : Nat)
  | unquotedValue (position : Nat)
  | missingQuote (position : Nat) (quote : Char)
  | duplicate (position previous : Nat)
deriving DecidableEq, Repr

/-- The wording of the error. -/
def AttributeError.message : AttributeError → String
  | missingEquals p => s!"position {p}: attribute key must be directly followed by `=` or space"
  | missingValue p => s!"position {p}: `=` must be followed by an attribute value"
  | unquotedValue p => s!"position {p}: attribute value must be enclosed in `\"` or `'`"
  | missingQuote p quote => s!"position {p}: missing closing quote `{quote}` in attribute value"
  | duplicate p previous =>
    s!"position {p}: duplicated attribute, previous declaration at position {previous}"

/-- A number that is no number of a character. -/
inductive NumberError where
  | sign
  | empty
  | digit
  | tooLarge
  | null
  | noCharacter (code : Nat)
deriving DecidableEq, Repr

namespace NumberError

/-- The wording of the error. -/
def message : NumberError → String
  | sign => "unexpected number sign"
  | empty => "cannot parse integer from empty string"
  | digit => "invalid digit found in string"
  | tooLarge => "number too large to fit in target type"
  | null => "0x0 character is not permitted in XML"
  | noCharacter code => s!"`{code}` is not a valid codepoint"

/-- The wording at each level of detail. -/
def causes (e : NumberError) : List String :=
  match e with
  | empty | digit | tooLarge => [e.message, e.message]
  | _ => [e.message]

end NumberError

/-- An escape that stands for nothing. -/
inductive EscapeError where
  | unknownEntity (range : Text.Range) (name : String)
  | unterminated (range : Text.Range)
  | number (e : NumberError)
deriving DecidableEq, Repr

namespace EscapeError

/-- The wording of the error. -/
def message : EscapeError → String
  | unknownEntity range name => s!"at {range.render}: unrecognized entity `{name}`"
  | unterminated range =>
    s!"Error while escaping character at range {range.render}: Cannot find ';' after '&'"
  | number e => s!"invalid character reference: {e.message}"

/-- The wording at each level of detail. -/
def causes (e : EscapeError) : List String :=
  match e with
  | number inner => e.message :: inner.causes
  | _ => [e.message]

end EscapeError

/-- What can be wrong with a document. -/
inductive XmlError where
  | badMarkup (e : MarkupError)
  | badNesting (e : NestingError)
  | badAttribute (e : AttributeError)
  | badEscape (e : EscapeError)
deriving DecidableEq, Repr

namespace XmlError

/-- The wording of the error. -/
def message : XmlError → String
  | badMarkup e => s!"syntax error: {e.message}"
  | badNesting e => s!"ill-formed document: {e.message}"
  | badAttribute e => s!"error while parsing attribute: {e.message}"
  | badEscape e => e.message

/-- The wording at each level of detail. -/
def causes (e : XmlError) : List String :=
  e.message ::
    match e with
    | badMarkup inner => [inner.message]
    | badNesting inner => [inner.message]
    | badAttribute inner => [inner.message]
    | badEscape inner => inner.causes

end XmlError

end JavaNaming.Xml
