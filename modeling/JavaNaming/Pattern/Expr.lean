/-!
# Pattern expressions

The expressions of the pattern language, as they are written. Each one knows the part of the pattern
where it stands, so that an error found later can point to it.
-/

namespace JavaNaming.Pattern

/-! ## Places in a pattern -/

/-- A place in a pattern: how many characters stand before it, and its line and column, both counted
from one. -/
structure Spot where
  index : Nat
  line : Nat
  column : Nat
deriving DecidableEq, Repr

namespace Spot

/-- The start of a pattern. -/
def origin : Spot := ⟨0, 1, 1⟩

/-- The place after a character. -/
def after (s : Spot) (c : Char) : Spot :=
  if c = '\n' then ⟨s.index + 1, s.line + 1, 1⟩ else ⟨s.index + 1, s.line, s.column + 1⟩

end Spot

/-- A part of a pattern. -/
structure Span where
  start : Spot
  stop : Spot
deriving DecidableEq, Repr

namespace Span

/-- The empty part at a place. -/
def point (s : Spot) : Span := ⟨s, s⟩

/-- Whether the part starts and ends in the same line. -/
def isOneLine (s : Span) : Bool := s.start.line == s.stop.line

/-- Parts in the order of their starts, then of their ends. -/
def le (s t : Span) : Bool :=
  s.start.index < t.start.index || (s.start.index == t.start.index && s.stop.index ≤ t.stop.index)

end Span

/-! ## Expressions -/

/-- The switches of the language. -/
inductive Flag where
  | ignoreCase
  | multiLine
  | dotAll
  | swapGreed
  | unicode
  | crlf
  | verbose
deriving DecidableEq, Repr

/-- The letter for a switch. -/
def Flag.ofLetter? : Char → Option Flag
  | 'i' => some ignoreCase
  | 'm' => some multiLine
  | 's' => some dotAll
  | 'U' => some swapGreed
  | 'u' => some unicode
  | 'R' => some crlf
  | 'x' => some verbose
  | _ => none

/-- An item of a list of switches. The switches after a negation are turned off. -/
inductive FlagItem where
  | negation
  | flag (f : Flag)
deriving DecidableEq, Repr

/-- Whether a list of switches turns one of them on or off. -/
def flagState? (f : Flag) : List FlagItem → Option Bool
  | [] => none
  | .flag g :: items => if f = g then some true else flagState? f items
  | .negation :: items => if items.contains (.flag f) then some false else none

/-- A character of a pattern that stands for itself. -/
structure Literal where
  span : Span
  char : Char
  /-- Whether the character is written as a byte, with two hexadecimal digits. -/
  isByte : Bool
deriving DecidableEq, Repr

/-- Conditions on a place in the text. -/
inductive Assertion where
  | startLine
  | endLine
  | startText
  | endText
  | wordBoundary
  | notWordBoundary
  | wordStart
  | wordEnd
  | wordStartHalf
  | wordEndHalf
deriving DecidableEq, Repr

/-- Classes with a one-letter escape. -/
inductive Shorthand where
  | digit
  | space
  | word
deriving DecidableEq, Repr

/-- How a property is asked for: by one letter, by name, or by name and value. -/
inductive PropertyQuery where
  | named (name : List Char)
  | valued (name value : List Char)
deriving DecidableEq, Repr

/-- The classes of ASCII characters that have a name within brackets. -/
inductive AsciiClass where
  | alnum
  | alpha
  | ascii
  | blank
  | cntrl
  | digit
  | graph
  | lower
  | print
  | punct
  | space
  | upper
  | word
  | xdigit
deriving DecidableEq, Repr

/-- The class with a given name. -/
def AsciiClass.ofName? : String → Option AsciiClass
  | "alnum" => some alnum
  | "alpha" => some alpha
  | "ascii" => some ascii
  | "blank" => some blank
  | "cntrl" => some cntrl
  | "digit" => some digit
  | "graph" => some graph
  | "lower" => some lower
  | "print" => some print
  | "punct" => some punct
  | "space" => some space
  | "upper" => some upper
  | "word" => some word
  | "xdigit" => some xdigit
  | _ => none

/-- Operations on classes. -/
inductive SetOp where
  | intersection
  | difference
  | symmetricDifference
deriving DecidableEq, Repr

/-- How often something is repeated: between a least and a largest number, if there is a largest. -/
structure Counts where
  least : Nat
  most : Option Nat
  ordered : ∀ m ∈ most, least ≤ m
deriving Repr

/-- What stands between brackets. -/
inductive ClassSet where
  | nothing (span : Span)
  | literal (l : Literal)
  | range (span : Span) (first last : Literal)
  | ascii (span : Span) (kind : AsciiClass) (negated : Bool)
  | property (span : Span) (query : PropertyQuery) (negated : Bool)
  | shorthand (span : Span) (kind : Shorthand) (negated : Bool)
  | bracketed (span : Span) (negated : Bool) (set : ClassSet)
  | union (span : Span) (items : List ClassSet)
  | op (span : Span) (kind : SetOp) (lhs rhs : ClassSet)
deriving Repr

/-- The part of the pattern where a class stands. -/
def ClassSet.span : ClassSet → Span
  | nothing s => s
  | literal l => l.span
  | range s _ _ => s
  | ascii s _ _ => s
  | property s _ _ => s
  | shorthand s _ _ => s
  | bracketed s _ _ => s
  | union s _ => s
  | op s _ _ _ => s

/-- A pattern expression. -/
inductive Expr where
  | empty (span : Span)
  | flags (span : Span) (items : List FlagItem)
  | literal (l : Literal)
  | dot (span : Span)
  | assertion (span : Span) (kind : Assertion)
  | shorthand (span : Span) (kind : Shorthand) (negated : Bool)
  | property (span : Span) (query : PropertyQuery) (negated : Bool)
  | bracketed (span : Span) (negated : Bool) (set : ClassSet)
  | repetition (span : Span) (counts : Counts) (body : Expr)
  | group (span : Span) (captures : Bool) (items : List FlagItem) (body : Expr)
  | concat (span : Span) (parts : List Expr)
  | alternation (span : Span) (parts : List Expr)
deriving Repr

/-- The part of the pattern where an expression stands. -/
def Expr.span : Expr → Span
  | empty s => s
  | flags s _ => s
  | literal l => l.span
  | dot s => s
  | assertion s _ => s
  | shorthand s _ _ => s
  | property s _ _ => s
  | bracketed s _ _ => s
  | repetition s _ _ => s
  | group s _ _ _ => s
  | concat s _ => s
  | alternation s _ => s

end JavaNaming.Pattern
