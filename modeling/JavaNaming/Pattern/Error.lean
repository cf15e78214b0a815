import JavaNaming.Pattern.Expr

/-!
# Errors in patterns

`SyntaxError.message` quotes the pattern, underlines the part that is wrong and says why. A pattern
of several lines is quoted between rules, with line numbers.
-/

namespace JavaNaming.Pattern

/-- What can be wrong with a pattern. -/
inductive Flaw where
  | classEscapeInvalid
  | classRangeInvalid
  | classRangeLiteral
  | classUnclosed
  | decimalInvalid
  | hexEmpty
  | hexInvalid
  | hexDigitInvalid
  | escapeUnfinished
  | escapeUnrecognized
  | flagDanglingNegation
  | flagDuplicate
  | flagRepeatedNegation
  | flagUnfinished
  | flagUnrecognized
  | groupNameDuplicate
  | groupNameEmpty
  | groupNameInvalid
  | groupNameUnfinished
  | groupUnclosed
  | groupUnopened
  | nestedTooDeep
  | countInvalid
  | countEmpty
  | countUnclosed
  | repetitionMissing
  | wordBoundaryUnclosed
  | wordBoundaryUnrecognized
  | wordBoundaryUnfinished
  | propertyInvalid
  | backreference
  | lookAround
  | unicodeNotAllowed
  | invalidUtf8
  | propertyNotFound
  | propertyValueNotFound
deriving DecidableEq, Repr

/-- How deep expressions may be nested. -/
def nestLimit : Nat := 250

/-- The wording of a flaw. -/
def Flaw.message : Flaw → String
  | classEscapeInvalid => "invalid escape sequence found in character class"
  | classRangeInvalid => "invalid character class range, the start must be <= the end"
  | classRangeLiteral => "invalid range boundary, must be a literal"
  | classUnclosed => "unclosed character class"
  | decimalInvalid => "decimal literal invalid"
  | hexEmpty => "hexadecimal literal empty"
  | hexInvalid => "hexadecimal literal is not a Unicode scalar value"
  | hexDigitInvalid => "invalid hexadecimal digit"
  | escapeUnfinished => "incomplete escape sequence, reached end of pattern prematurely"
  | escapeUnrecognized => "unrecognized escape sequence"
  | flagDanglingNegation => "dangling flag negation operator"
  | flagDuplicate => "duplicate flag"
  | flagRepeatedNegation => "flag negation operator repeated"
  | flagUnfinished => "expected flag but got end of regex"
  | flagUnrecognized => "unrecognized flag"
  | groupNameDuplicate => "duplicate capture group name"
  | groupNameEmpty => "empty capture group name"
  | groupNameInvalid => "invalid capture group character"
  | groupNameUnfinished => "unclosed capture group name"
  | groupUnclosed => "unclosed group"
  | groupUnopened => "unopened group"
  | nestedTooDeep => s!"exceed the maximum number of nested parentheses/brackets ({nestLimit})"
  | countInvalid => "invalid repetition count range, the start must be <= the end"
  | countEmpty => "repetition quantifier expects a valid decimal"
  | countUnclosed => "unclosed counted repetition"
  | repetitionMissing => "repetition operator missing expression"
  | wordBoundaryUnclosed =>
    "special word boundary assertion is either unclosed or contains an invalid character"
  | wordBoundaryUnrecognized =>
    "unrecognized special word boundary assertion, valid choices are: start, end, start-half " ++
      "or end-half"
  | wordBoundaryUnfinished =>
    "found either the beginning of a special word boundary or a bounded repetition on a \\b " ++
      "with an opening brace, but no closing brace"
  | propertyInvalid => "invalid Unicode character class"
  | backreference => "backreferences are not supported"
  | lookAround => "look-around, including look-ahead and look-behind, is not supported"
  | unicodeNotAllowed => "Unicode not allowed here"
  | invalidUtf8 => "pattern can match invalid UTF-8"
  | propertyNotFound => "Unicode property not found"
  | propertyValueNotFound => "Unicode property value not found"

/-- A flaw, the part of the pattern that has it, and a second part where one belongs to it. -/
structure SyntaxError where
  flaw : Flaw
  span : Span
  second : Option Span := none
deriving DecidableEq, Repr

/-! ## Lines of a pattern -/

/-- The lines of a text, without their ends. A carriage return before a line feed belongs to the line
end, and nothing follows the last line feed. -/
def textLines : List Char → List (List Char)
  | [] => []
  | '\n' :: cs => [] :: textLines cs
  | '\r' :: '\n' :: cs => [] :: textLines cs
  | c :: cs =>
    match textLines cs with
    | [] => [[c]]
    | l :: ls => (c :: l) :: ls

/-- The underlining of the given parts, which start in the same line and stand in order. -/
def underline (column : Nat) : List Span → List Char
  | [] => []
  | s :: rest =>
    let indent := s.start.column - 1 - column
    let width := max 1 (s.stop.column - s.start.column)
    List.replicate indent ' ' ++ List.replicate width '^' ++
      underline (column + indent + width) rest

/-- The lines of a pattern from number `n` on, each with its number and what is underlined in it. -/
def annotate (width : Nat) (spans : List Span) (n : Nat) : List (List Char) → List (List Char)
  | [] => []
  | line :: rest =>
    let here := spans.filter (·.start.line == n)
    let number := (toString n).toList
    let head :=
      if width = 0 then List.replicate 4 ' '
      else List.replicate (width - number.length) ' ' ++ number ++ [':', ' ']
    let pad := if width = 0 then 4 else width + 2
    let marks := if here.isEmpty then [] else [List.replicate pad ' ' ++ underline 0 here]
    (head ++ line) :: marks ++ annotate width spans (n + 1) rest

/-- The parts to underline or to name, in the order of the pattern. -/
def SyntaxError.spans (e : SyntaxError) : List Span :=
  match e.second with
  | none => [e.span]
  | some s => if s.le e.span then [s, e.span] else [e.span, s]

/-- A part of several lines in words. -/
def describeSpan (s : Span) : String :=
  s!"on line {s.start.line} (column {s.start.column}) through line {s.stop.line} " ++
    s!"(column {s.stop.column - 1})"

/-- The full text of an error in a pattern. -/
def SyntaxError.message (pattern : List Char) (e : SyntaxError) : String :=
  let lines := textLines pattern
  let count := lines.length + (if pattern.getLast? = some '\n' then 1 else 0)
  let width := if count ≤ 1 then 0 else (toString count).length
  let shown := (annotate width (e.spans.filter (·.isOneLine)) 1 lines).map String.ofList
  let long := (e.spans.filter fun s => !s.isOneLine).map describeSpan
  let text :=
    if pattern.contains '\n' then
      let rule := String.ofList (List.replicate 79 '~')
      [rule] ++ shown ++ [rule] ++ long
    else shown
  "\n".intercalate (["regex parse error:"] ++ text ++ [s!"error: {e.flaw.message}"])

/-- Why a pattern cannot be used. -/
inductive PatternError where
  | malformed (pattern : List Char) (e : SyntaxError)
  | tooLarge (limit : Nat)
deriving Repr

/-- The wording of the error. -/
def PatternError.message : PatternError → String
  | malformed pattern e => e.message pattern
  | tooLarge limit => s!"Compiled regex exceeds size limit of {limit} bytes."

end JavaNaming.Pattern
