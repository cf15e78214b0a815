import JavaNaming.Java.Source
import JavaNaming.Naming.Declaration
import JavaNaming.Naming.NamePattern

/-!
# Checking names

A checker has one pattern for each category, and so one rule. It applies the rules in turn, each to the
whole tree in the order of a walk, and stops at the first name that does not have its format.
-/

namespace JavaNaming.Naming

open Pattern (PatternError)
open Syntax (Tree Cursor)

/-- A name that does not have the format of its category. -/
structure Violation where
  category : Category
  name : String
  /-- The format in words. -/
  expected : String
  range : Text.Range
deriving DecidableEq, Repr

/-- The wording of a violation. -/
def Violation.message (v : Violation) : String :=
  s!"Code style violated: {v.category.label} name must use {v.expected}: {v.name}"

/-- A format that is no pattern. -/
structure InvalidFormat where
  category : Category
  format : String
  cause : PatternError
deriving Repr

/-- The wording of the error. -/
def InvalidFormat.message (e : InvalidFormat) : String :=
  s!"invalid {e.category.label} name format '{e.format}': {e.cause.message}"

/-! ## Rules -/

/-- The format that the names of a category have to match. -/
structure Rule where
  category : Category
  pattern : NamePattern

namespace Rule

/-- Whether a node can declare names of the rule's category. -/
def concerns (r : Rule) (t : Tree) : Bool := r.category.kinds.contains t.kind

/-- The names of the rule's category that the node at a cursor declares. -/
def identifiers (r : Rule) (source : List Char) (c : Cursor) : List Identifier :=
  if r.concerns c.focus then declared source r.category c else []

/-- The violation by a name, if it does not have the format. -/
def judge (r : Rule) (i : Identifier) : Option Violation :=
  if r.pattern.accepts i.name then none
  else some ⟨i.category, i.name, r.pattern.description, i.range⟩

/-- The first violation by the names that the node at a cursor declares. -/
def checkNode (r : Rule) (source : List Char) (c : Cursor) : Option Violation :=
  (r.identifiers source c).findSome? r.judge

/-- The first violation in a tree. -/
def checkTree (r : Rule) (source : List Char) (t : Tree) : Option Violation :=
  (Syntax.walk t).findSome? (r.checkNode source)

end Rule

/-! ## Checkers -/

/-- The patterns of all categories. -/
structure Checker where
  parameterPattern : NamePattern
  variablePattern : NamePattern
  methodPattern : NamePattern
  typePattern : NamePattern

/-- Why a source did not pass. -/
inductive CheckError where
  | parse (e : Java.ParseError)
  | style (v : Violation)
deriving DecidableEq, Repr

namespace Checker

/-- The pattern for a category by some conventions. -/
def patternFor (c : Conventions) (category : Category) : Except InvalidFormat NamePattern :=
  match NamePattern.ofFormat (c.format category) with
  | .ok pattern => .ok pattern
  | .error cause => .error ⟨category, c.format category, cause⟩

/-- The checker for some conventions. -/
def ofConventions (c : Conventions) : Except InvalidFormat Checker := do
  let parameterPattern ← patternFor c .parameter
  let variablePattern ← patternFor c .variable
  let methodPattern ← patternFor c .method
  let typePattern ← patternFor c .type
  return ⟨parameterPattern, variablePattern, methodPattern, typePattern⟩

/-- The checker for the standard conventions. -/
def standard : Checker :=
  (ofConventions .standard).toOption.get (by decide +kernel)

/-- The pattern for the names of a category. -/
def pattern (c : Checker) : Category → NamePattern
  | .parameter => c.parameterPattern
  | .variable => c.variablePattern
  | .method => c.methodPattern
  | .type => c.typePattern

/-- The rules in the order in which they are applied. -/
def rules (c : Checker) : List Rule := Category.all.map fun k => ⟨k, c.pattern k⟩

/-- The first violation in a tree. -/
def checkTree (c : Checker) (source : List Char) (t : Tree) : Option Violation :=
  c.rules.findSome? fun r => r.checkTree source t

/-- Check a source that was parsed with the given result. -/
def checkParsed (c : Checker) (source : List Char) :
    Except Java.ParseError Tree → Except CheckError Unit
  | .error e => .error (.parse e)
  | .ok t =>
    match c.checkTree source t with
    | some v => .error (.style v)
    | none => .ok ()

/-- Read and check a source. -/
def checkSource (c : Checker) (source : List Char) : Except CheckError Unit :=
  c.checkParsed source (Java.parse source)

end Checker

end JavaNaming.Naming
