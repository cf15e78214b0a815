import JavaNaming.Naming.Conventions
import JavaNaming.Pattern.Compile

/-!
# Patterns for names

A format is put between the start and the end of a text, so that it has to match a name as a whole.
-/

namespace JavaNaming.Naming

open Pattern (Regex PatternError)

/-- A format as a pattern for a whole text. -/
def wholeText (format : List Char) : List Char :=
  "^(?:".toList ++ format ++ ")$".toList

/-- A format that is ready for use. -/
structure NamePattern where
  format : String
  regex : Regex

namespace NamePattern

/-- Make a format ready for use, if what it becomes passes a test of its size. -/
def ofFormatWith (fits : List Char → Regex → Bool) (format : String) :
    Except PatternError NamePattern :=
  match Pattern.compileWith fits (wholeText format.toList) with
  | .ok regex => .ok ⟨format, regex⟩
  | .error e => .error e

/-- Make a format ready for use. -/
def ofFormat (format : String) : Except PatternError NamePattern :=
  ofFormatWith Pattern.fitsLimit format

/-- Whether a name has the format. -/
def accepts (p : NamePattern) (name : String) : Bool := p.regex.found name.toList

/-- The format in words. -/
def description (p : NamePattern) : String := describeFormat p.format

end NamePattern

end JavaNaming.Naming
