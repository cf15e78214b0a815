import JavaNaming.Pattern.Parse
import JavaNaming.Pattern.Regex

/-!
# The meaning of pattern expressions

`Expr.meaning` turns an expression into a description of the texts that match it. The switches that
an expression turns on hold until the end of the group it stands in.
-/

namespace JavaNaming.Pattern

open Unicode (CharSet)

/-- The switches that bear on the meaning of an expression. -/
structure Switches where
  ignoreCase : Bool
  multiLine : Bool
  dotAll : Bool
  unicode : Bool
  crlf : Bool
deriving DecidableEq, Repr

namespace Switches

/-- The switches at the start of a pattern. -/
def initial : Switches := ⟨false, false, false, true, false⟩

/-- The switches after some of them were turned on or off. -/
def set (s : Switches) (items : List FlagItem) : Switches where
  ignoreCase := (flagState? .ignoreCase items).getD s.ignoreCase
  multiLine := (flagState? .multiLine items).getD s.multiLine
  dotAll := (flagState? .dotAll items).getD s.dotAll
  unicode := (flagState? .unicode items).getD s.unicode
  crlf := (flagState? .crlf items).getD s.crlf

end Switches

/-! ## Classes -/

/-- The characters of a named ASCII class. -/
def AsciiClass.chars : AsciiClass → CharSet
  | alnum => ⟨[(48, 57), (65, 90), (97, 122)]⟩
  | alpha => ⟨[(65, 90), (97, 122)]⟩
  | ascii => ⟨[(0, 127)]⟩
  | blank => ⟨[(9, 9), (32, 32)]⟩
  | cntrl => ⟨[(0, 31), (127, 127)]⟩
  | digit => ⟨[(48, 57)]⟩
  | graph => ⟨[(33, 126)]⟩
  | lower => ⟨[(97, 122)]⟩
  | print => ⟨[(32, 126)]⟩
  | punct => ⟨[(33, 47), (58, 64), (91, 96), (123, 126)]⟩
  | space => ⟨[(9, 13), (32, 32)]⟩
  | upper => ⟨[(65, 90)]⟩
  | word => ⟨[(48, 57), (65, 90), (95, 95), (97, 122)]⟩
  | xdigit => ⟨[(48, 57), (65, 70), (97, 102)]⟩

/-- The characters of a one-letter class. -/
def Shorthand.chars (unicode : Bool) : Shorthand → CharSet
  | digit => if unicode then Unicode.decimalDigit else AsciiClass.digit.chars
  | space => if unicode then Unicode.whiteSpace else AsciiClass.space.chars
  | word => if unicode then Unicode.word else AsciiClass.word.chars

/-- A set with the other case of its characters. -/
def foldCase (s : Switches) (c : CharSet) : CharSet :=
  if s.unicode then c.caseFold else c.caseFoldAscii

/-- Without Unicode only ASCII characters are left in classes: others would be parts of
characters. -/
def onlyWhole (s : Switches) (span : Span) (c : CharSet) : Read CharSet :=
  if s.unicode || c.isAscii then .ok c else fail .invalidUtf8 span

/-- A set with the other case of its characters where case is ignored, or its complement. -/
def foldAndNegate (s : Switches) (span : Span) (negated : Bool) (c : CharSet) : Read CharSet :=
  let c := if s.ignoreCase then foldCase s c else c
  onlyWhole s span (if negated then c.complement else c)

/-- The set of a one-letter class. -/
def shorthandSet (s : Switches) (span : Span) (kind : Shorthand) (negated : Bool) : Read CharSet :=
  let c := kind.chars s.unicode
  onlyWhole s span (if negated then c.complement else c)

/-- The set of a property. -/
def propertySet (s : Switches) (span : Span) (query : PropertyQuery) (negated : Bool) :
    Read CharSet :=
  if !s.unicode then fail .unicodeNotAllowed span
  else
    let found := match query with
      | .named name => Unicode.setNamed name
      | .valued name value => Unicode.setWith name value
    match found with
    | .ok c => foldAndNegate s span negated c
    | .error .unknownProperty => fail .propertyNotFound span
    | .error .unknownValue => fail .propertyValueNotFound span

/-- Without Unicode, a character written as a byte must be a whole one. -/
def checkByte (s : Switches) (l : Literal) : Read Char :=
  if !s.unicode && l.isByte && l.char.toNat > 127 then fail .invalidUtf8 l.span else .ok l.char

/-- A character within a class. -/
def classChar (s : Switches) (l : Literal) : Read Char := do
  let c ← checkByte s l
  if !s.unicode && c.toNat > 127 then fail .unicodeNotAllowed l.span else return c

/-- Combine two sets. -/
def SetOp.apply : SetOp → CharSet → CharSet → CharSet
  | intersection, a, b => a.inter b
  | difference, a, b => a.diff b
  | symmetricDifference, a, b => a.symmDiff b

mutual

/-- The set of a class. -/
def ClassSet.meaning (s : Switches) : ClassSet → Read CharSet
  | .nothing _ => .ok .empty
  | .literal l => do return .single (← classChar s l)
  | .range _ a b => do
    let first ← classChar s a
    let last ← classChar s b
    return .range first.toNat last.toNat
  | .ascii span kind negated => foldAndNegate s span negated kind.chars
  | .property span query negated => propertySet s span query negated
  | .shorthand span kind negated => shorthandSet s span kind negated
  | .bracketed span negated set => do foldAndNegate s span negated (← set.meaning s)
  | .union _ items => ClassSet.meaningAll s .empty items
  | .op _ kind lhs rhs => do
    let a ← lhs.meaning s
    let b ← rhs.meaning s
    if s.ignoreCase then return kind.apply (foldCase s a) (foldCase s b)
    else return kind.apply a b

/-- The union of several classes and a set. -/
def ClassSet.meaningAll (s : Switches) (acc : CharSet) : List ClassSet → Read CharSet
  | [] => .ok acc
  | c :: cs => do
    let found ← c.meaning s
    ClassSet.meaningAll s (acc.union found) cs

end

/-! ## Expressions -/

/-- The meaning of a single character. -/
def literalMeaning (s : Switches) (c : Char) : Regex :=
  let set := CharSet.single c
  if s.ignoreCase then .chars (foldCase s set) else .chars set

/-- The meaning of a dot. -/
def dotMeaning (s : Switches) (span : Span) : Read Regex :=
  if !s.unicode then fail .invalidUtf8 span
  else if s.dotAll then .ok (.chars .full)
  else if s.crlf then
    .ok (.chars ((CharSet.ofCodePoints ['\n'.toNat, '\r'.toNat]).complement))
  else .ok (.chars (CharSet.single '\n').complement)

/-- The meaning of a condition. -/
def assertionMeaning (s : Switches) : Assertion → Look
  | .startLine =>
    if s.multiLine then (if s.crlf then .startLineCrlf else .startLine) else .start
  | .endLine => if s.multiLine then (if s.crlf then .stopLineCrlf else .stopLine) else .stop
  | .startText => .start
  | .endText => .stop
  | .wordBoundary => .wordBoundary s.unicode
  | .notWordBoundary => .notWordBoundary s.unicode
  | .wordStart => .wordStart s.unicode
  | .wordEnd => .wordEnd s.unicode
  | .wordStartHalf => .wordStartHalf s.unicode
  | .wordEndHalf => .wordEndHalf s.unicode

mutual

/-- The meaning of an expression, and the switches after it. -/
def Expr.meaning (s : Switches) : Expr → Read (Regex × Switches)
  | .empty _ => .ok (.empty, s)
  | .flags _ items => .ok (.empty, s.set items)
  | .literal l => do return (literalMeaning s (← checkByte s l), s)
  | .dot span => do return (← dotMeaning s span, s)
  | .assertion _ kind => .ok (.look (assertionMeaning s kind), s)
  | .shorthand span kind negated => do return (.chars (← shorthandSet s span kind negated), s)
  | .property span query negated => do return (.chars (← propertySet s span query negated), s)
  | .bracketed span negated set => do
    return (.chars (← foldAndNegate s span negated (← set.meaning s)), s)
  | .repetition _ counts body => do
    let (r, s) ← body.meaning s
    return (.repetition counts r, s)
  | .group _ captures items body => do
    let (r, _) ← body.meaning (s.set items)
    return (if captures then .capture r else r, s)
  | .concat _ parts => do
    let (rs, s) ← Expr.meaningAll s parts
    return (.sequence rs, s)
  | .alternation _ parts => do
    let (rs, s) ← Expr.meaningAll s parts
    return (.choice rs, s)

/-- The meanings of several expressions, and the switches after them. -/
def Expr.meaningAll (s : Switches) : List Expr → Read (List Regex × Switches)
  | [] => .ok ([], s)
  | e :: es => do
    let (r, s) ← e.meaning s
    let (rs, s) ← Expr.meaningAll s es
    return (r :: rs, s)

end

end JavaNaming.Pattern
