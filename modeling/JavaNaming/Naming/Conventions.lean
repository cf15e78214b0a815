import JavaNaming.Naming.Category

/-!
# Naming conventions

A convention is a format that a name has to match as a whole, one for each category. Formats are
patterns. Types have a built-in style that applies where no format is given for them.
-/

namespace JavaNaming.Naming

/-! ## Built-in formats -/

/-- Words joined by capitals, the first in lower case: `userId`, `countTotal2`. -/
def camelCase : String := "[a-z]+([A-Z][a-zA-Z0-9]*)*"

/-- Words of lower case letters joined by underscores: `run`, `do_thing`. -/
def snakeCase : String := "[a-z]+(_[a-z]+)*"

/-- A capital and then letters and digits: `Http2Client`. -/
def pascalCase : String := "[A-Z][a-zA-Z0-9]*"

/-- A format in words. -/
def describeFormat (format : String) : String :=
  if format = camelCase then "camelCase"
  else if format = snakeCase then "snake_case"
  else if format = pascalCase then "PascalCase"
  else s!"pattern '{format}'"

/-! ## Conventions -/

/-- The built-in styles for names of types. -/
inductive TypeStyle where
  | pascalCase
  | legacySnakeCase
deriving DecidableEq, Repr

namespace TypeStyle

/-- The format of a style. -/
def format : TypeStyle → String
  | pascalCase => Naming.pascalCase
  | legacySnakeCase => snakeCase

/-- The name of a style in configurations. -/
def label : TypeStyle → String
  | pascalCase => "pascal-case"
  | legacySnakeCase => "legacy-snake-case"

/-- The style with a given name. -/
def ofLabel? : String → Option TypeStyle
  | "pascal-case" => some pascalCase
  | "legacy-snake-case" => some legacySnakeCase
  | _ => none

end TypeStyle

/-- The formats of all categories. -/
structure Conventions where
  parameterFormat : String
  variableFormat : String
  methodFormat : String
  typeStyle : TypeStyle
  /-- The format for types. It takes precedence over the style. -/
  typeFormat? : Option String
deriving DecidableEq, Repr

namespace Conventions

/-- The conventions that hold where nothing else is said. -/
def standard : Conventions where
  parameterFormat := camelCase
  variableFormat := camelCase
  methodFormat := snakeCase
  typeStyle := .pascalCase
  typeFormat? := none

/-- The format that names of types have to match. -/
def typeFormat (c : Conventions) : String :=
  c.typeFormat?.getD c.typeStyle.format

/-- Whether the names of types are checked in the old style. -/
def usesLegacyTypeStyle (c : Conventions) : Bool :=
  c.typeFormat?.isNone && c.typeStyle == .legacySnakeCase

/-- The format for a category. -/
def format (c : Conventions) : Category → String
  | .parameter => c.parameterFormat
  | .variable => c.variableFormat
  | .method => c.methodFormat
  | .type => c.typeFormat

/-- Whether the conventions are those that hold where nothing else is said. -/
def isStandard (c : Conventions) : Bool := c == standard

end Conventions

/-- New values for some of the conventions. -/
structure Changes where
  parameterFormat? : Option String
  variableFormat? : Option String
  methodFormat? : Option String
  typeStyle? : Option TypeStyle
  /-- The format for types can also be taken away. -/
  typeFormat? : Option (Option String)
deriving DecidableEq, Repr

/-- The conventions after some changes. -/
def Conventions.change (c : Conventions) (d : Changes) : Conventions where
  parameterFormat := d.parameterFormat?.getD c.parameterFormat
  variableFormat := d.variableFormat?.getD c.variableFormat
  methodFormat := d.methodFormat?.getD c.methodFormat
  typeStyle := d.typeStyle?.getD c.typeStyle
  typeFormat? := d.typeFormat?.getD c.typeFormat?

end JavaNaming.Naming
