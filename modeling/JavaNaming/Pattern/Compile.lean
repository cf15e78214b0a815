import JavaNaming.Pattern.Meaning
import JavaNaming.Pattern.Size

/-!
# Patterns from text

`compile` reads a pattern and checks that it is not too large. `compileWith` leaves open how the size is
judged.
-/

namespace JavaNaming.Pattern

/-- The meaning of a pattern. -/
def meaningOf (pattern : List Char) : Read Regex := do
  let e ← Expr.parse pattern
  let (r, _) ← e.meaning .initial
  return r

/-- The meaning of a pattern, if it passes a test of its size. -/
def compileWith (fits : List Char → Regex → Bool) (pattern : List Char) : Except PatternError Regex :=
  match meaningOf pattern with
  | .error e => .error (.malformed pattern e)
  | .ok r => if fits pattern r then .ok r else .error (.tooLarge sizeLimit)

/-- Whether the automaton for a pattern with a given meaning fits. -/
def fitsLimit (_pattern : List Char) (r : Regex) : Bool := r.fits

/-- The meaning of a pattern that is not too large. -/
def compile (pattern : List Char) : Except PatternError Regex := compileWith fitsLimit pattern

end JavaNaming.Pattern
