import JavaNaming.Xml.Error

/-!
# Attributes

`attributesOf` lists the attributes of a tag up to the first that is not well-formed. Positions count
bytes from the start of the tag's name.
-/

namespace JavaNaming.Xml

open Text (byteLength)

/-- Whether a character is blank. -/
def isBlank (c : Char) : Bool := c == ' ' || c == '\r' || c == '\n' || c == '\t'

/-- An attribute. The value is as it is written between its quotes. -/
structure Attribute where
  name : List Char
  value : List Char
deriving DecidableEq, Repr

namespace Attribute

/-- Whether the attribute binds a prefix of names. -/
def bindsNames (a : Attribute) : Bool :=
  a.name == "xmlns".toList || "xmlns:".toList.isPrefixOf a.name

end Attribute

/-- A name without the prefix in front of its colon. -/
def localName (name : List Char) : List Char :=
  match name.dropWhile (· != ':') with
  | _ :: rest => rest
  | [] => name

/-- Text in a tag and its position. -/
structure Place where
  position : Nat
  text : List Char

namespace Place

/-- The place after the characters with a property at its start, which come first. -/
def span (p : Place) (keep : Char → Bool) : List Char × Place :=
  let run := p.text.takeWhile keep
  (run, ⟨p.position + byteLength run, p.text.drop run.length⟩)

/-- The place after the blanks at its start. -/
def skipBlank (p : Place) : Place := (p.span isBlank).2

/-- The place after its first character. -/
def next (p : Place) : Place :=
  match p.text with
  | [] => p
  | c :: cs => ⟨p.position + c.utf8Size, cs⟩

end Place

/-- Read a name. It has one character at least, whatever it is, and ends with a blank or in front of an
equals sign. -/
def readName (p : Place) : List Char × Place :=
  let (rest, q) := p.next.span fun c => c != '=' && !isBlank c
  (p.text.take 1 ++ rest, q)

/-- Read one attribute. `seen` has the names before it, with their positions. -/
def readAttribute (seen : List (List Char × Nat)) (p : Place) :
    Except AttributeError (Attribute × Place) :=
  let start := p.position
  let (name, p) := readName p
  let p := p.skipBlank
  if p.text.head? ≠ some '=' then .error (.missingEquals p.position)
  else
    match seen.lookup name with
    | some previous => .error (.duplicate start previous)
    | none =>
      let p := p.next.skipBlank
      match p.text with
      | [] => .error (.missingValue p.position)
      | quote :: _ =>
        if quote = '"' ∨ quote = '\'' then
          let (value, p) := p.next.span (· != quote)
          match p.text with
          | [] => .error (.missingQuote p.position quote)
          | _ :: _ => .ok (⟨name, value⟩, p.next)
        else .error (.unquotedValue p.position)

/-- Read attributes after those with the names in `seen`. -/
def readAttributes : Nat → List (List Char × Nat) → Place → List Attribute × Option AttributeError
  | 0, _, _ => ([], none)
  | fuel + 1, seen, p =>
    let p := p.skipBlank
    if p.text.isEmpty then ([], none)
    else
      match readAttribute seen p with
      | .error e => ([], some e)
      | .ok (a, rest) =>
        let (as, e?) := readAttributes fuel ((a.name, p.position) :: seen) rest
        (a :: as, e?)

/-- The attributes in the text of a tag after its name, and why they end if not with the tag. -/
def attributesOf (name rest : List Char) : List Attribute × Option AttributeError :=
  readAttributes (rest.length + 1) [] ⟨byteLength name, rest⟩

end JavaNaming.Xml
