/-!
# Categories of names

The four kinds of names that are checked, in the order in which they are checked.
-/

namespace JavaNaming.Naming

/-- A kind of names. -/
inductive Category where
  | parameter
  | variable
  | method
  | type
deriving DecidableEq, Repr

namespace Category

/-- The categories in the order in which they are checked. -/
def all : List Category := [.parameter, .variable, .method, .type]

/-- The word for a category in messages. -/
def label : Category → String
  | .parameter => "parameter"
  | .variable => "variable"
  | .method => "method"
  | .type => "type"

/-- The name of the rule for a category. -/
def ruleName : Category → String
  | .parameter => "ParameterName"
  | .variable => "VariableName"
  | .method => "MethodName"
  | .type => "TypeName"

/-- The kinds of nodes that can declare names of a category. -/
def kinds : Category → List String
  | .parameter =>
    ["formal_parameter", "spread_parameter", "catch_formal_parameter", "lambda_expression",
      "inferred_parameters"]
  | .variable => ["variable_declarator", "enhanced_for_statement", "resource"]
  | .method => ["method_declaration"]
  | .type => ["class_declaration", "interface_declaration"]

end Category

end JavaNaming.Naming
