/-!
# The productions of the Java grammar

A reduction replaces the topmost subtrees of the stack by one subtree. What matters of a production
is its left-hand side, its length, its dynamic precedence, which prefers one of several readings of
an ambiguous text, and its layout: the kind and the field name that a position on the right-hand
side gives to the child standing there.
-/

namespace JavaNaming.Java.Grammar

/-- What one position of a right-hand side gives to its child. -/
structure Slot where
  kind : Option String
  field : Option String
deriving DecidableEq, Repr

/-- The positions of a right-hand side. Positions past the end give nothing. -/
abbrev Layout := List Slot

/-- One reduction of the parser. -/
structure Reduction where
  lhs : Nat
  length : Nat
  precedence : Int
  layout : Nat
deriving DecidableEq, Repr

/-- The layouts by number. Layout `0` is empty. -/
def layouts : Array Layout := #[
  [], [⟨some "identifier", none⟩], [⟨none, none⟩, ⟨none, some "condition"⟩, ⟨none, some "body"⟩],
  [⟨none, none⟩, ⟨none, some "body"⟩],
  [⟨none, none⟩, ⟨none, some "resources"⟩, ⟨none, some "body"⟩],
  [⟨none, none⟩, ⟨none, none⟩, ⟨none, none⟩, ⟨none, none⟩, ⟨none, some "body"⟩],
  [⟨none, none⟩, ⟨none, some "name"⟩, ⟨none, some "body"⟩],
  [⟨none, none⟩, ⟨none, none⟩, ⟨none, some "body"⟩], [⟨none, some "type"⟩],
  [⟨none, none⟩, ⟨none, some "name"⟩, ⟨none, some "type_parameters"⟩, ⟨none, some "body"⟩],
  [⟨none, none⟩, ⟨none, some "name"⟩, ⟨none, some "superclass"⟩, ⟨none, some "body"⟩],
  [⟨none, none⟩, ⟨none, some "name"⟩, ⟨none, some "interfaces"⟩, ⟨none, some "body"⟩],
  [⟨none, none⟩, ⟨none, some "name"⟩, ⟨none, some "permits"⟩, ⟨none, some "body"⟩],
  [⟨none, none⟩, ⟨none, none⟩, ⟨none, some "name"⟩, ⟨none, some "body"⟩],
  [⟨none, none⟩, ⟨none, some "name"⟩, ⟨none, some "parameters"⟩, ⟨none, some "body"⟩],
  [⟨none, none⟩, ⟨none, some "name"⟩, ⟨none, none⟩, ⟨none, some "body"⟩],
  [⟨none, none⟩, ⟨none, some "type"⟩],
  [⟨none, none⟩, ⟨none, some "name"⟩, ⟨none, some "type_parameters"⟩, ⟨none, some "superclass"⟩, ⟨none, some "body"⟩],
  [⟨none, none⟩, ⟨none, some "name"⟩, ⟨none, some "type_parameters"⟩, ⟨none, some "interfaces"⟩, ⟨none, some "body"⟩],
  [⟨none, none⟩, ⟨none, some "name"⟩, ⟨none, some "type_parameters"⟩, ⟨none, some "permits"⟩, ⟨none, some "body"⟩],
  [⟨none, none⟩, ⟨none, some "name"⟩, ⟨none, some "superclass"⟩, ⟨none, some "interfaces"⟩, ⟨none, some "body"⟩],
  [⟨none, none⟩, ⟨none, some "name"⟩, ⟨none, some "superclass"⟩, ⟨none, some "permits"⟩, ⟨none, some "body"⟩],
  [⟨none, none⟩, ⟨none, some "name"⟩, ⟨none, some "interfaces"⟩, ⟨none, some "permits"⟩, ⟨none, some "body"⟩],
  [⟨none, none⟩, ⟨none, some "body"⟩, ⟨none, none⟩, ⟨none, some "condition"⟩],
  [⟨none, none⟩, ⟨none, some "condition"⟩, ⟨none, some "consequence"⟩, ⟨none, none⟩, ⟨none, some "alternative"⟩],
  [⟨none, none⟩, ⟨none, some "name"⟩, ⟨none, some "type_parameters"⟩, ⟨none, some "parameters"⟩, ⟨none, some "body"⟩],
  [⟨none, none⟩, ⟨none, some "name"⟩, ⟨none, some "parameters"⟩, ⟨none, some "interfaces"⟩, ⟨none, some "body"⟩],
  [⟨none, none⟩, ⟨none, some "name"⟩, ⟨none, some "type_parameters"⟩, ⟨none, none⟩, ⟨none, some "body"⟩],
  [⟨none, none⟩, ⟨none, some "name"⟩, ⟨none, none⟩, ⟨none, some "permits"⟩, ⟨none, some "body"⟩],
  [⟨none, none⟩, ⟨none, none⟩, ⟨none, some "name"⟩, ⟨none, some "type_parameters"⟩, ⟨none, some "body"⟩],
  [⟨none, none⟩, ⟨none, none⟩, ⟨none, some "name"⟩, ⟨none, some "superclass"⟩, ⟨none, some "body"⟩],
  [⟨none, none⟩, ⟨none, none⟩, ⟨none, some "name"⟩, ⟨none, some "interfaces"⟩, ⟨none, some "body"⟩],
  [⟨none, none⟩, ⟨none, none⟩, ⟨none, some "name"⟩, ⟨none, some "permits"⟩, ⟨none, some "body"⟩],
  [⟨none, none⟩, ⟨none, none⟩, ⟨none, some "name"⟩, ⟨none, some "parameters"⟩, ⟨none, some "body"⟩],
  [⟨none, none⟩, ⟨none, none⟩, ⟨none, some "name"⟩, ⟨none, none⟩, ⟨none, some "body"⟩],
  [⟨none, none⟩, ⟨none, none⟩, ⟨none, none⟩, ⟨none, some "name"⟩, ⟨none, some "body"⟩],
  [⟨none, none⟩, ⟨none, some "name"⟩, ⟨none, some "type_parameters"⟩, ⟨none, some "superclass"⟩, ⟨none, some "interfaces"⟩, ⟨none, some "body"⟩],
  [⟨none, none⟩, ⟨none, some "name"⟩, ⟨none, some "type_parameters"⟩, ⟨none, some "superclass"⟩, ⟨none, some "permits"⟩, ⟨none, some "body"⟩],
  [⟨none, none⟩, ⟨none, some "name"⟩, ⟨none, some "type_parameters"⟩, ⟨none, some "interfaces"⟩, ⟨none, some "permits"⟩, ⟨none, some "body"⟩],
  [⟨none, none⟩, ⟨none, some "name"⟩, ⟨none, some "superclass"⟩, ⟨none, some "interfaces"⟩, ⟨none, some "permits"⟩, ⟨none, some "body"⟩],
  [⟨none, none⟩, ⟨none, none⟩, ⟨none, none⟩, ⟨none, none⟩, ⟨none, none⟩, ⟨none, some "body"⟩],
  [⟨none, none⟩, ⟨none, none⟩, ⟨none, some "init"⟩, ⟨none, none⟩, ⟨none, none⟩, ⟨none, some "body"⟩],
  [⟨none, none⟩, ⟨none, some "name"⟩, ⟨none, some "type_parameters"⟩, ⟨none, some "parameters"⟩, ⟨none, some "interfaces"⟩, ⟨none, some "body"⟩],
  [⟨none, none⟩, ⟨none, some "name"⟩, ⟨none, some "type_parameters"⟩, ⟨none, none⟩, ⟨none, some "permits"⟩, ⟨none, some "body"⟩],
  [⟨none, none⟩, ⟨none, none⟩, ⟨none, some "name"⟩, ⟨none, some "type_parameters"⟩, ⟨none, some "superclass"⟩, ⟨none, some "body"⟩],
  [⟨none, none⟩, ⟨none, none⟩, ⟨none, some "name"⟩, ⟨none, some "type_parameters"⟩, ⟨none, some "interfaces"⟩, ⟨none, some "body"⟩],
  [⟨none, none⟩, ⟨none, none⟩, ⟨none, some "name"⟩, ⟨none, some "type_parameters"⟩, ⟨none, some "permits"⟩, ⟨none, some "body"⟩],
  [⟨none, none⟩, ⟨none, none⟩, ⟨none, some "name"⟩, ⟨none, some "superclass"⟩, ⟨none, some "interfaces"⟩, ⟨none, some "body"⟩],
  [⟨none, none⟩, ⟨none, none⟩, ⟨none, some "name"⟩, ⟨none, some "superclass"⟩, ⟨none, some "permits"⟩, ⟨none, some "body"⟩],
  [⟨none, none⟩, ⟨none, none⟩, ⟨none, some "name"⟩, ⟨none, some "interfaces"⟩, ⟨none, some "permits"⟩, ⟨none, some "body"⟩],
  [⟨none, none⟩, ⟨none, none⟩, ⟨none, some "name"⟩, ⟨none, some "type_parameters"⟩, ⟨none, some "parameters"⟩, ⟨none, some "body"⟩],
  [⟨none, none⟩, ⟨none, none⟩, ⟨none, some "name"⟩, ⟨none, some "parameters"⟩, ⟨none, some "interfaces"⟩, ⟨none, some "body"⟩],
  [⟨none, none⟩, ⟨none, none⟩, ⟨none, some "name"⟩, ⟨none, some "type_parameters"⟩, ⟨none, none⟩, ⟨none, some "body"⟩],
  [⟨none, none⟩, ⟨none, none⟩, ⟨none, some "name"⟩, ⟨none, none⟩, ⟨none, some "permits"⟩, ⟨none, some "body"⟩],
  [⟨none, none⟩, ⟨none, some "name"⟩, ⟨none, some "type_parameters"⟩, ⟨none, some "superclass"⟩, ⟨none, some "interfaces"⟩, ⟨none, some "permits"⟩, ⟨none, some "body"⟩],
  [⟨none, none⟩, ⟨none, none⟩, ⟨none, none⟩, ⟨none, none⟩, ⟨none, some "update"⟩, ⟨none, none⟩, ⟨none, some "body"⟩],
  [⟨none, none⟩, ⟨none, none⟩, ⟨none, none⟩, ⟨none, some "condition"⟩, ⟨none, none⟩, ⟨none, none⟩, ⟨none, some "body"⟩],
  [⟨none, none⟩, ⟨none, none⟩, ⟨none, some "init"⟩, ⟨none, none⟩, ⟨none, none⟩, ⟨none, none⟩, ⟨none, some "body"⟩],
  [⟨none, none⟩, ⟨none, none⟩, ⟨none, some "init"⟩, ⟨none, none⟩, ⟨none, some "update"⟩, ⟨none, none⟩, ⟨none, some "body"⟩],
  [⟨none, none⟩, ⟨none, none⟩, ⟨none, some "init"⟩, ⟨none, some "condition"⟩, ⟨none, none⟩, ⟨none, none⟩, ⟨none, some "body"⟩],
  [⟨none, none⟩, ⟨none, none⟩, ⟨none, some "name"⟩, ⟨none, some "type_parameters"⟩, ⟨none, some "superclass"⟩, ⟨none, some "interfaces"⟩, ⟨none, some "body"⟩],
  [⟨none, none⟩, ⟨none, none⟩, ⟨none, some "name"⟩, ⟨none, some "type_parameters"⟩, ⟨none, some "superclass"⟩, ⟨none, some "permits"⟩, ⟨none, some "body"⟩],
  [⟨none, none⟩, ⟨none, none⟩, ⟨none, some "name"⟩, ⟨none, some "type_parameters"⟩, ⟨none, some "interfaces"⟩, ⟨none, some "permits"⟩, ⟨none, some "body"⟩],
  [⟨none, none⟩, ⟨none, none⟩, ⟨none, some "name"⟩, ⟨none, some "superclass"⟩, ⟨none, some "interfaces"⟩, ⟨none, some "permits"⟩, ⟨none, some "body"⟩],
  [⟨none, none⟩, ⟨none, none⟩, ⟨none, some "name"⟩, ⟨none, some "type_parameters"⟩, ⟨none, some "parameters"⟩, ⟨none, some "interfaces"⟩, ⟨none, some "body"⟩],
  [⟨none, none⟩, ⟨none, none⟩, ⟨none, some "name"⟩, ⟨none, some "type_parameters"⟩, ⟨none, none⟩, ⟨none, some "permits"⟩, ⟨none, some "body"⟩],
  [⟨none, none⟩, ⟨none, none⟩, ⟨none, none⟩, ⟨none, none⟩, ⟨none, some "update"⟩, ⟨none, none⟩, ⟨none, none⟩, ⟨none, some "body"⟩],
  [⟨none, none⟩, ⟨none, none⟩, ⟨none, none⟩, ⟨none, some "condition"⟩, ⟨none, none⟩, ⟨none, some "update"⟩, ⟨none, none⟩, ⟨none, some "body"⟩],
  [⟨none, none⟩, ⟨none, none⟩, ⟨none, some "init"⟩, ⟨none, none⟩, ⟨none, none⟩, ⟨none, some "update"⟩, ⟨none, none⟩, ⟨none, some "body"⟩],
  [⟨none, none⟩, ⟨none, none⟩, ⟨none, some "init"⟩, ⟨none, none⟩, ⟨none, some "condition"⟩, ⟨none, none⟩, ⟨none, none⟩, ⟨none, some "body"⟩],
  [⟨none, none⟩, ⟨none, none⟩, ⟨none, some "init"⟩, ⟨none, none⟩, ⟨none, none⟩, ⟨none, none⟩, ⟨none, none⟩, ⟨none, some "body"⟩],
  [⟨none, none⟩, ⟨none, none⟩, ⟨none, some "type"⟩, ⟨none, none⟩, ⟨none, none⟩, ⟨none, some "value"⟩, ⟨none, none⟩, ⟨none, some "body"⟩],
  [⟨none, none⟩, ⟨none, none⟩, ⟨none, some "init"⟩, ⟨none, none⟩, ⟨none, some "update"⟩, ⟨none, none⟩, ⟨none, none⟩, ⟨none, some "body"⟩],
  [⟨none, none⟩, ⟨none, none⟩, ⟨none, some "init"⟩, ⟨none, some "condition"⟩, ⟨none, none⟩, ⟨none, some "update"⟩, ⟨none, none⟩, ⟨none, some "body"⟩],
  [⟨none, none⟩, ⟨none, none⟩, ⟨none, some "name"⟩, ⟨none, some "type_parameters"⟩, ⟨none, some "superclass"⟩, ⟨none, some "interfaces"⟩, ⟨none, some "permits"⟩, ⟨none, some "body"⟩],
  [⟨none, none⟩, ⟨none, none⟩, ⟨none, none⟩, ⟨none, some "condition"⟩, ⟨none, none⟩, ⟨none, some "update"⟩, ⟨none, none⟩, ⟨none, none⟩, ⟨none, some "body"⟩],
  [⟨none, none⟩, ⟨none, none⟩, ⟨none, some "init"⟩, ⟨none, none⟩, ⟨none, none⟩, ⟨none, some "update"⟩, ⟨none, none⟩, ⟨none, none⟩, ⟨none, some "body"⟩],
  [⟨none, none⟩, ⟨none, none⟩, ⟨none, some "init"⟩, ⟨none, none⟩, ⟨none, some "condition"⟩, ⟨none, none⟩, ⟨none, some "update"⟩, ⟨none, none⟩, ⟨none, some "body"⟩],
  [⟨none, none⟩, ⟨none, none⟩, ⟨none, some "init"⟩, ⟨none, none⟩, ⟨none, none⟩, ⟨none, none⟩, ⟨none, some "update"⟩, ⟨none, none⟩, ⟨none, some "body"⟩],
  [⟨none, none⟩, ⟨none, none⟩, ⟨none, some "init"⟩, ⟨none, none⟩, ⟨none, none⟩, ⟨none, some "condition"⟩, ⟨none, none⟩, ⟨none, none⟩, ⟨none, some "body"⟩],
  [⟨none, none⟩, ⟨none, none⟩, ⟨none, none⟩, ⟨none, some "type"⟩, ⟨none, none⟩, ⟨none, none⟩, ⟨none, some "value"⟩, ⟨none, none⟩, ⟨none, some "body"⟩],
  [⟨none, none⟩, ⟨none, none⟩, ⟨none, some "init"⟩, ⟨none, some "condition"⟩, ⟨none, none⟩, ⟨none, some "update"⟩, ⟨none, none⟩, ⟨none, none⟩, ⟨none, some "body"⟩],
  [⟨none, none⟩, ⟨none, none⟩, ⟨none, some "init"⟩, ⟨none, none⟩, ⟨none, some "condition"⟩, ⟨none, none⟩, ⟨none, some "update"⟩, ⟨none, none⟩, ⟨none, none⟩, ⟨none, some "body"⟩],
  [⟨none, none⟩, ⟨none, none⟩, ⟨none, some "init"⟩, ⟨none, none⟩, ⟨none, none⟩, ⟨none, none⟩, ⟨none, some "update"⟩, ⟨none, none⟩, ⟨none, none⟩, ⟨none, some "body"⟩],
  [⟨none, none⟩, ⟨none, none⟩, ⟨none, some "init"⟩, ⟨none, none⟩, ⟨none, none⟩, ⟨none, some "condition"⟩, ⟨none, none⟩, ⟨none, some "update"⟩, ⟨none, none⟩, ⟨none, some "body"⟩],
  [⟨none, none⟩, ⟨none, none⟩, ⟨none, some "init"⟩, ⟨none, none⟩, ⟨none, none⟩, ⟨none, some "condition"⟩, ⟨none, none⟩, ⟨none, some "update"⟩, ⟨none, none⟩, ⟨none, none⟩, ⟨none, some "body"⟩],
  [⟨none, none⟩, ⟨none, some "condition"⟩, ⟨none, some "consequence"⟩],
  [⟨none, some "constructor"⟩, ⟨none, some "arguments"⟩],
  [⟨none, some "type_arguments"⟩, ⟨none, some "constructor"⟩, ⟨none, some "arguments"⟩],
  [⟨none, some "object"⟩, ⟨none, none⟩, ⟨none, some "constructor"⟩, ⟨none, some "arguments"⟩],
  [⟨none, some "object"⟩, ⟨none, none⟩, ⟨none, some "type_arguments"⟩, ⟨none, some "constructor"⟩, ⟨none, some "arguments"⟩],
  [⟨some "type_identifier", none⟩], [⟨none, some "object"⟩, ⟨none, none⟩, ⟨none, some "field"⟩],
  [⟨none, some "object"⟩, ⟨none, none⟩, ⟨none, none⟩, ⟨none, none⟩, ⟨none, some "field"⟩],
  [⟨none, some "array"⟩, ⟨none, none⟩, ⟨none, some "index"⟩],
  [⟨none, none⟩, ⟨none, some "type"⟩, ⟨none, some "dimensions"⟩],
  [⟨none, none⟩, ⟨some "type_identifier", some "type"⟩, ⟨none, some "dimensions"⟩],
  [⟨none, none⟩, ⟨none, none⟩, ⟨none, some "type"⟩, ⟨none, some "dimensions"⟩],
  [⟨none, none⟩, ⟨none, none⟩, ⟨some "type_identifier", some "type"⟩, ⟨none, some "dimensions"⟩],
  [⟨none, some "scope"⟩, ⟨none, none⟩, ⟨none, some "name"⟩],
  [⟨some "type_identifier", none⟩, ⟨none, none⟩, ⟨some "type_identifier", none⟩],
  [⟨none, none⟩, ⟨none, none⟩, ⟨some "type_identifier", none⟩],
  [⟨some "type_identifier", none⟩, ⟨none, none⟩, ⟨none, none⟩, ⟨some "type_identifier", none⟩],
  [⟨none, none⟩, ⟨none, none⟩, ⟨none, none⟩, ⟨some "type_identifier", none⟩],
  [⟨none, some "element"⟩, ⟨none, some "dimensions"⟩],
  [⟨none, some "left"⟩, ⟨none, none⟩, ⟨none, some "right"⟩],
  [⟨none, some "left"⟩, ⟨none, none⟩, ⟨none, none⟩, ⟨none, some "right"⟩],
  [⟨none, none⟩, ⟨none, some "name"⟩],
  [⟨none, none⟩, ⟨none, some "type"⟩, ⟨none, some "arguments"⟩],
  [⟨none, none⟩, ⟨some "type_identifier", some "type"⟩, ⟨none, some "arguments"⟩],
  [⟨none, none⟩, ⟨none, some "type_arguments"⟩, ⟨none, some "type"⟩, ⟨none, some "arguments"⟩],
  [⟨none, none⟩, ⟨none, some "type_arguments"⟩, ⟨some "type_identifier", some "type"⟩, ⟨none, some "arguments"⟩],
  [⟨none, none⟩, ⟨none, none⟩, ⟨none, some "type"⟩, ⟨none, some "arguments"⟩],
  [⟨none, none⟩, ⟨none, none⟩, ⟨some "type_identifier", some "type"⟩, ⟨none, some "arguments"⟩],
  [⟨none, none⟩, ⟨none, some "type_arguments"⟩, ⟨none, none⟩, ⟨none, some "type"⟩, ⟨none, some "arguments"⟩],
  [⟨none, none⟩, ⟨none, some "type_arguments"⟩, ⟨none, none⟩, ⟨some "type_identifier", some "type"⟩, ⟨none, some "arguments"⟩],
  [⟨none, none⟩, ⟨none, none⟩, ⟨none, some "type_arguments"⟩, ⟨none, some "type"⟩, ⟨none, some "arguments"⟩],
  [⟨none, none⟩, ⟨none, none⟩, ⟨none, some "type_arguments"⟩, ⟨some "type_identifier", some "type"⟩, ⟨none, some "arguments"⟩],
  [⟨none, none⟩, ⟨none, none⟩, ⟨none, some "type_arguments"⟩, ⟨none, none⟩, ⟨none, some "type"⟩, ⟨none, some "arguments"⟩],
  [⟨none, none⟩, ⟨none, none⟩, ⟨none, some "type_arguments"⟩, ⟨none, none⟩, ⟨some "type_identifier", some "type"⟩, ⟨none, some "arguments"⟩],
  [⟨none, some "name"⟩, ⟨none, some "arguments"⟩],
  [⟨none, none⟩, ⟨none, some "name"⟩, ⟨none, some "arguments"⟩],
  [⟨none, some "template_processor"⟩, ⟨none, none⟩, ⟨none, some "template_argument"⟩],
  [⟨none, none⟩, ⟨none, some "type"⟩, ⟨none, none⟩, ⟨none, some "value"⟩],
  [⟨none, none⟩, ⟨none, some "type"⟩, ⟨none, some "dimensions"⟩, ⟨none, some "value"⟩],
  [⟨none, none⟩, ⟨none, some "type"⟩, ⟨none, some "dimensions"⟩, ⟨none, some "dimensions"⟩],
  [⟨none, none⟩, ⟨some "type_identifier", some "type"⟩, ⟨none, some "dimensions"⟩, ⟨none, some "value"⟩],
  [⟨none, none⟩, ⟨some "type_identifier", some "type"⟩, ⟨none, some "dimensions"⟩, ⟨none, some "dimensions"⟩],
  [⟨none, some "object"⟩, ⟨none, none⟩, ⟨none, some "name"⟩, ⟨none, some "arguments"⟩],
  [⟨none, none⟩, ⟨none, some "type"⟩, ⟨none, none⟩, ⟨none, none⟩, ⟨none, some "value"⟩],
  [⟨none, none⟩, ⟨none, none⟩, ⟨none, some "type"⟩, ⟨none, some "dimensions"⟩, ⟨none, some "value"⟩],
  [⟨none, none⟩, ⟨none, none⟩, ⟨none, some "type"⟩, ⟨none, some "dimensions"⟩, ⟨none, some "dimensions"⟩],
  [⟨none, none⟩, ⟨none, none⟩, ⟨some "type_identifier", some "type"⟩, ⟨none, some "dimensions"⟩, ⟨none, some "value"⟩],
  [⟨none, none⟩, ⟨none, none⟩, ⟨some "type_identifier", some "type"⟩, ⟨none, some "dimensions"⟩, ⟨none, some "dimensions"⟩],
  [⟨none, some "name"⟩, ⟨none, some "body"⟩],
  [⟨none, some "object"⟩, ⟨none, none⟩, ⟨none, some "type_arguments"⟩, ⟨none, some "name"⟩, ⟨none, some "arguments"⟩],
  [⟨none, some "object"⟩, ⟨none, none⟩, ⟨none, none⟩, ⟨none, none⟩, ⟨none, some "name"⟩, ⟨none, some "arguments"⟩],
  [⟨none, none⟩, ⟨none, none⟩, ⟨none, none⟩, ⟨none, some "body"⟩],
  [⟨none, some "object"⟩, ⟨none, none⟩, ⟨none, none⟩, ⟨none, none⟩, ⟨none, some "type_arguments"⟩, ⟨none, some "name"⟩, ⟨none, some "arguments"⟩],
  [⟨none, some "operator"⟩, ⟨none, some "operand"⟩],
  [⟨none, some "parameters"⟩, ⟨none, none⟩, ⟨none, some "body"⟩],
  [⟨none, some "left"⟩, ⟨none, some "operator"⟩, ⟨none, some "right"⟩],
  [⟨none, some "left"⟩, ⟨none, none⟩, ⟨none, some "pattern"⟩],
  [⟨none, some "left"⟩, ⟨none, none⟩, ⟨none, none⟩, ⟨none, some "pattern"⟩],
  [⟨none, some "left"⟩, ⟨none, none⟩, ⟨none, some "right"⟩, ⟨none, some "name"⟩],
  [⟨none, some "left"⟩, ⟨none, none⟩, ⟨none, none⟩, ⟨none, some "right"⟩, ⟨none, some "name"⟩],
  [⟨none, some "type"⟩, ⟨none, some "name"⟩],
  [⟨none, none⟩, ⟨none, some "type"⟩, ⟨none, some "name"⟩],
  [⟨none, some "type"⟩, ⟨none, some "name"⟩, ⟨none, none⟩, ⟨none, none⟩, ⟨none, some "dimensions"⟩],
  [⟨none, none⟩, ⟨none, some "type"⟩, ⟨none, some "name"⟩, ⟨none, none⟩, ⟨none, none⟩, ⟨none, some "dimensions"⟩],
  [⟨none, some "condition"⟩, ⟨none, none⟩, ⟨none, some "consequence"⟩, ⟨none, none⟩, ⟨none, some "alternative"⟩],
  [⟨none, none⟩, ⟨none, none⟩, ⟨none, some "value"⟩], [⟨none, none⟩, ⟨none, some "init"⟩],
  [⟨none, some "type"⟩, ⟨none, none⟩, ⟨none, none⟩, ⟨none, some "value"⟩],
  [⟨none, none⟩, ⟨none, some "update"⟩], [⟨none, some "name"⟩],
  [⟨none, some "name"⟩, ⟨none, some "parameters"⟩], [⟨none, some "modifiers"⟩],
  [⟨none, none⟩, ⟨none, some "module"⟩], [⟨none, none⟩, ⟨none, some "package"⟩],
  [⟨none, none⟩, ⟨none, none⟩, ⟨none, some "module"⟩],
  [⟨none, none⟩, ⟨none, some "package"⟩, ⟨none, none⟩, ⟨none, some "modules"⟩],
  [⟨none, none⟩, ⟨none, some "provided"⟩], [⟨none, some "name"⟩, ⟨none, some "dimensions"⟩],
  [⟨none, none⟩, ⟨some "type_identifier", none⟩],
  [⟨none, some "type_parameters"⟩, ⟨none, some "type"⟩],
  [⟨none, some "type_parameters"⟩, ⟨none, none⟩, ⟨none, some "type"⟩],
  [⟨none, some "declarator"⟩],
  [⟨none, some "name"⟩, ⟨none, some "parameters"⟩, ⟨none, some "dimensions"⟩],
  [⟨none, some "name"⟩, ⟨none, some "arguments"⟩, ⟨none, some "body"⟩],
  [⟨none, none⟩, ⟨none, some "name"⟩, ⟨none, some "arguments"⟩, ⟨none, some "body"⟩],
  [⟨none, none⟩, ⟨none, some "modules"⟩], [⟨none, none⟩, ⟨none, some "provider"⟩],
  [⟨none, none⟩, ⟨none, some "declarator"⟩],
  [⟨none, some "type_parameters"⟩, ⟨none, some "name"⟩, ⟨none, some "parameters"⟩],
  [⟨none, some "key"⟩, ⟨none, none⟩, ⟨none, some "value"⟩], [⟨none, none⟩, ⟨none, some "value"⟩]]

/-- The reductions by number. -/
def reductions : Array Reduction := #[
  ⟨0, 0, 0, 0⟩, ⟨0, 1, 0, 0⟩, ⟨148, 2, 0, 0⟩, ⟨38, 1, 0, 0⟩, ⟨161, 2, 0, 0⟩, ⟨38, 2, 0, 0⟩,
  ⟨147, 1, 0, 1⟩, ⟨104, 2, 0, 0⟩, ⟨104, 3, 0, 0⟩, ⟨48, 2, 0, 0⟩, ⟨22, 3, 0, 0⟩, ⟨36, 3, 0, 2⟩,
  ⟨48, 3, 0, 0⟩, ⟨37, 2, 0, 0⟩, ⟨37, 3, 0, 0⟩, ⟨9, 1, 0, 0⟩, ⟨47, 1, 0, 0⟩, ⟨59, 3, 0, 3⟩,
  ⟨64, 3, 0, 4⟩, ⟨64, 4, 0, 4⟩, ⟨163, 2, 0, 0⟩, ⟨60, 5, 0, 5⟩, ⟨78, 1, 0, 0⟩, ⟨53, 2, 0, 0⟩,
  ⟨54, 2, 0, 0⟩, ⟨55, 2, 0, 0⟩, ⟨49, 2, 0, 0⟩, ⟨95, 3, 0, 6⟩, ⟨51, 3, 0, 0⟩, ⟨68, 3, 0, 2⟩,
  ⟨53, 3, 0, 0⟩, ⟨54, 3, 0, 0⟩, ⟨55, 3, 0, 0⟩, ⟨56, 3, 0, 0⟩, ⟨57, 3, 0, 7⟩, ⟨58, 3, 0, 0⟩,
  ⟨79, 3, 0, 6⟩, ⟨88, 3, 0, 0⟩, ⟨89, 3, 0, 0⟩, ⟨91, 3, 0, 6⟩, ⟨115, 3, 0, 6⟩, ⟨119, 3, 0, 6⟩,
  ⟨50, 3, 0, 0⟩, ⟨144, 3, 0, 8⟩, ⟨95, 4, 0, 9⟩, ⟨95, 4, 0, 10⟩, ⟨95, 4, 0, 11⟩, ⟨95, 4, 0, 12⟩,
  ⟨63, 2, 0, 0⟩, ⟨59, 4, 0, 3⟩, ⟨79, 4, 0, 13⟩, ⟨80, 2, 0, 0⟩, ⟨89, 4, 0, 0⟩, ⟨92, 2, 0, 0⟩,
  ⟨91, 4, 0, 11⟩, ⟨114, 4, 0, 14⟩, ⟨116, 2, 0, 0⟩, ⟨121, 2, 0, 0⟩, ⟨119, 4, 0, 9⟩,
  ⟨119, 4, 0, 12⟩, ⟨119, 4, 0, 15⟩, ⟨95, 4, 0, 13⟩, ⟨91, 4, 0, 13⟩, ⟨115, 4, 0, 13⟩,
  ⟨119, 4, 0, 13⟩, ⟨144, 4, 0, 16⟩, ⟨88, 4, 0, 0⟩, ⟨95, 5, 0, 17⟩, ⟨95, 5, 0, 18⟩, ⟨95, 5, 0, 19⟩,
  ⟨95, 5, 0, 20⟩, ⟨95, 5, 0, 21⟩, ⟨95, 5, 0, 22⟩, ⟨51, 5, 0, 0⟩, ⟨52, 5, 0, 23⟩, ⟨64, 5, 0, 4⟩,
  ⟨67, 5, 0, 24⟩, ⟨80, 3, 0, 0⟩, ⟨89, 5, 0, 0⟩, ⟨92, 3, 0, 0⟩, ⟨114, 5, 0, 25⟩, ⟨114, 5, 0, 26⟩,
  ⟨116, 3, 0, 0⟩, ⟨121, 3, 0, 0⟩, ⟨119, 5, 0, 19⟩, ⟨119, 5, 0, 27⟩, ⟨119, 5, 0, 28⟩,
  ⟨95, 5, 0, 29⟩, ⟨95, 5, 0, 30⟩, ⟨95, 5, 0, 31⟩, ⟨95, 5, 0, 32⟩, ⟨91, 5, 0, 31⟩, ⟨114, 5, 0, 33⟩,
  ⟨119, 5, 0, 29⟩, ⟨119, 5, 0, 32⟩, ⟨119, 5, 0, 34⟩, ⟨79, 5, 0, 35⟩, ⟨95, 6, 0, 36⟩,
  ⟨95, 6, 0, 37⟩, ⟨95, 6, 0, 38⟩, ⟨95, 6, 0, 39⟩, ⟨69, 6, 0, 40⟩, ⟨69, 6, 0, 41⟩, ⟨89, 6, 0, 0⟩,
  ⟨92, 4, 0, 0⟩, ⟨114, 6, 0, 42⟩, ⟨119, 6, 0, 43⟩, ⟨95, 6, 0, 44⟩, ⟨95, 6, 0, 45⟩, ⟨95, 6, 0, 46⟩,
  ⟨95, 6, 0, 47⟩, ⟨95, 6, 0, 48⟩, ⟨95, 6, 0, 49⟩, ⟨114, 6, 0, 50⟩, ⟨114, 6, 0, 51⟩,
  ⟨119, 6, 0, 46⟩, ⟨119, 6, 0, 52⟩, ⟨119, 6, 0, 53⟩, ⟨95, 7, 0, 54⟩, ⟨69, 7, 0, 55⟩,
  ⟨69, 7, 0, 56⟩, ⟨69, 7, 0, 57⟩, ⟨69, 7, 0, 58⟩, ⟨69, 7, 0, 59⟩, ⟨92, 5, 0, 0⟩, ⟨95, 7, 0, 60⟩,
  ⟨95, 7, 0, 61⟩, ⟨95, 7, 0, 62⟩, ⟨95, 7, 0, 63⟩, ⟨114, 7, 0, 64⟩, ⟨119, 7, 0, 65⟩,
  ⟨69, 8, 0, 66⟩, ⟨69, 8, 0, 67⟩, ⟨69, 8, 0, 68⟩, ⟨69, 8, 0, 69⟩, ⟨69, 8, 0, 70⟩, ⟨70, 8, 0, 71⟩,
  ⟨69, 8, 0, 72⟩, ⟨69, 8, 0, 73⟩, ⟨92, 6, 0, 0⟩, ⟨95, 8, 0, 74⟩, ⟨69, 9, 0, 75⟩, ⟨69, 9, 0, 76⟩,
  ⟨69, 9, 0, 77⟩, ⟨69, 9, 0, 78⟩, ⟨69, 9, 0, 79⟩, ⟨70, 9, 0, 80⟩, ⟨69, 9, 0, 81⟩, ⟨69, 10, 0, 82⟩,
  ⟨69, 10, 0, 83⟩, ⟨69, 10, 0, 84⟩, ⟨69, 11, 0, 85⟩, ⟨160, 2, 0, 0⟩, ⟨145, 2, 0, 0⟩,
  ⟨145, 2, 0, 3⟩, ⟨67, 3, 0, 86⟩, ⟨145, 3, 0, 0⟩, ⟨145, 3, 0, 7⟩, ⟨110, 3, 0, 87⟩,
  ⟨110, 4, 0, 88⟩, ⟨110, 5, 0, 89⟩, ⟨110, 6, 0, 90⟩, ⟨176, 1, 0, 0⟩, ⟨93, 1, 0, 0⟩,
  ⟨175, 2, 0, 0⟩, ⟨93, 2, 0, 0⟩, ⟨19, 1, 0, 0⟩, ⟨129, 1, 0, 91⟩, ⟨181, 2, 0, 0⟩, ⟨180, 2, 0, 0⟩,
  ⟨26, 3, 0, 92⟩, ⟨26, 5, 0, 93⟩, ⟨35, 1, 0, 0⟩, ⟨157, 2, 0, 0⟩, ⟨28, 4, 0, 94⟩, ⟨131, 2, 0, 0⟩,
  ⟨128, 1, 0, 0⟩, ⟨20, 3, 0, 95⟩, ⟨20, 3, 0, 96⟩, ⟨129, 1, 0, 0⟩, ⟨20, 4, 0, 97⟩, ⟨20, 4, 0, 98⟩,
  ⟨133, 2, 10, 91⟩, ⟨133, 2, 10, 0⟩, ⟨32, 2, 0, 0⟩, ⟨32, 3, 0, 0⟩, ⟨157, 3, 0, 0⟩, ⟨32, 4, 0, 0⟩,
  ⟨154, 2, 0, 0⟩, ⟨112, 3, 0, 99⟩, ⟨132, 3, 0, 100⟩, ⟨132, 3, 0, 101⟩, ⟨132, 4, 0, 102⟩,
  ⟨132, 4, 0, 103⟩, ⟨135, 1, 0, 0⟩, ⟨136, 1, 0, 0⟩, ⟨134, 2, 0, 104⟩, ⟨13, 3, 0, 105⟩,
  ⟨13, 4, 0, 106⟩, ⟨72, 2, 0, 107⟩, ⟨25, 3, 0, 108⟩, ⟨25, 3, 0, 109⟩, ⟨25, 4, 0, 110⟩,
  ⟨25, 4, 0, 111⟩, ⟨25, 4, 0, 112⟩, ⟨25, 4, 0, 113⟩, ⟨25, 5, 0, 114⟩, ⟨25, 5, 0, 115⟩,
  ⟨25, 5, 0, 116⟩, ⟨25, 5, 0, 117⟩, ⟨25, 6, 0, 118⟩, ⟨25, 6, 0, 119⟩, ⟨96, 1, 0, 0⟩,
  ⟨176, 2, 0, 0⟩, ⟨30, 2, 0, 0⟩, ⟨30, 3, 0, 0⟩, ⟨21, 3, 0, 0⟩, ⟨30, 4, 0, 0⟩, ⟨21, 4, 0, 0⟩,
  ⟨2, 1, 0, 0⟩, ⟨3, 1, 0, 0⟩, ⟨24, 1, 0, 0⟩, ⟨153, 1, 0, 0⟩, ⟨4, 2, 0, 0⟩, ⟨5, 2, 0, 0⟩,
  ⟨29, 2, 0, 120⟩, ⟨4, 3, 0, 0⟩, ⟨5, 3, 0, 0⟩, ⟨73, 3, 0, 121⟩, ⟨31, 3, 0, 0⟩, ⟨27, 3, 0, 122⟩,
  ⟨24, 3, 0, 0⟩, ⟨23, 3, 17, 0⟩, ⟨10, 4, 0, 123⟩, ⟨25, 4, 0, 108⟩, ⟨20, 4, 0, 124⟩,
  ⟨20, 4, 0, 125⟩, ⟨25, 4, 0, 109⟩, ⟨20, 4, 0, 126⟩, ⟨20, 4, 0, 127⟩, ⟨74, 2, 0, 0⟩,
  ⟨29, 4, 0, 128⟩, ⟨31, 4, 0, 0⟩, ⟨10, 5, 0, 129⟩, ⟨127, 2, 0, 0⟩, ⟨25, 5, 0, 110⟩,
  ⟨25, 5, 0, 111⟩, ⟨25, 5, 0, 112⟩, ⟨20, 5, 0, 130⟩, ⟨20, 5, 0, 131⟩, ⟨25, 5, 0, 113⟩,
  ⟨20, 5, 0, 132⟩, ⟨20, 5, 0, 133⟩, ⟨106, 2, 0, 0⟩, ⟨146, 2, 0, 134⟩, ⟨107, 2, 0, 3⟩,
  ⟨74, 3, 0, 0⟩, ⟨29, 5, 0, 135⟩, ⟨127, 3, 0, 0⟩, ⟨25, 6, 0, 114⟩, ⟨25, 6, 0, 115⟩,
  ⟨25, 6, 0, 116⟩, ⟨25, 6, 0, 117⟩, ⟨146, 3, 0, 6⟩, ⟨107, 3, 0, 7⟩, ⟨109, 2, 0, 0⟩,
  ⟨113, 3, 0, 8⟩, ⟨74, 4, 0, 0⟩, ⟨29, 6, 0, 136⟩, ⟨127, 4, 0, 0⟩, ⟨25, 7, 0, 118⟩,
  ⟨25, 7, 0, 119⟩, ⟨107, 4, 0, 137⟩, ⟨113, 4, 0, 16⟩, ⟨109, 3, 0, 0⟩, ⟨29, 7, 0, 138⟩,
  ⟨127, 5, 0, 0⟩, ⟨109, 4, 0, 0⟩, ⟨122, 3, 0, 8⟩, ⟨122, 4, 0, 16⟩, ⟨17, 2, 0, 139⟩, ⟨18, 2, 0, 0⟩,
  ⟨14, 3, 0, 140⟩, ⟨12, 3, 0, 141⟩, ⟨13, 3, 0, 142⟩, ⟨13, 4, 0, 143⟩, ⟨43, 2, 0, 0⟩,
  ⟨13, 4, 0, 144⟩, ⟨13, 5, 0, 145⟩, ⟨44, 2, 0, 0⟩, ⟨44, 3, 0, 0⟩, ⟨44, 4, 0, 0⟩, ⟨117, 5, 0, 146⟩,
  ⟨117, 6, 0, 147⟩, ⟨117, 6, 0, 148⟩, ⟨117, 6, 0, 146⟩, ⟨117, 7, 0, 149⟩, ⟨117, 7, 0, 147⟩,
  ⟨117, 7, 0, 148⟩, ⟨117, 8, 0, 149⟩, ⟨11, 3, 0, 141⟩, ⟨16, 5, 0, 150⟩, ⟨40, 2, 0, 0⟩,
  ⟨76, 1, 0, 0⟩, ⟨155, 2, 0, 0⟩, ⟨124, 3, 0, 151⟩, ⟨153, 2, 0, 0⟩, ⟨166, 2, 0, 152⟩,
  ⟨66, 4, 0, 153⟩, ⟨183, 2, 0, 0⟩, ⟨46, 2, 0, 0⟩, ⟨66, 5, 0, 129⟩, ⟨167, 2, 0, 154⟩,
  ⟨66, 1, 0, 0⟩, ⟨62, 1, 0, 0⟩, ⟨164, 2, 0, 0⟩, ⟨97, 3, 0, 0⟩, ⟨97, 4, 0, 0⟩, ⟨125, 1, 0, 155⟩,
  ⟨170, 2, 0, 0⟩, ⟨138, 2, 0, 156⟩, ⟨171, 2, 0, 0⟩, ⟨150, 2, 0, 0⟩, ⟨62, 2, 0, 0⟩, ⟨83, 1, 0, 0⟩,
  ⟨171, 1, 0, 157⟩, ⟨139, 2, 0, 0⟩, ⟨139, 3, 0, 0⟩, ⟨139, 4, 0, 0⟩, ⟨94, 1, 0, 155⟩,
  ⟨139, 5, 0, 0⟩, ⟨158, 2, 0, 0⟩, ⟨94, 2, 0, 107⟩, ⟨139, 6, 0, 0⟩, ⟨6, 1, 0, 0⟩, ⟨150, 1, 0, 0⟩,
  ⟨149, 2, 0, 0⟩, ⟨81, 1, 0, 0⟩, ⟨159, 2, 0, 0⟩, ⟨40, 3, 0, 0⟩, ⟨82, 3, 0, 158⟩, ⟨84, 3, 0, 159⟩,
  ⟨85, 3, 0, 159⟩, ⟨86, 3, 0, 16⟩, ⟨82, 4, 0, 160⟩, ⟨84, 5, 0, 161⟩, ⟨85, 5, 0, 161⟩,
  ⟨87, 5, 0, 162⟩, ⟨84, 6, 0, 161⟩, ⟨85, 6, 0, 161⟩, ⟨87, 6, 0, 162⟩, ⟨7, 3, 0, 0⟩, ⟨33, 1, 0, 0⟩,
  ⟨125, 2, 0, 163⟩, ⟨33, 2, 0, 0⟩, ⟨94, 2, 0, 120⟩, ⟨179, 2, 0, 0⟩, ⟨94, 3, 0, 121⟩,
  ⟨98, 1, 0, 91⟩, ⟨124, 1, 0, 0⟩, ⟨137, 2, 0, 8⟩, ⟨98, 2, 0, 164⟩, ⟨137, 3, 0, 165⟩,
  ⟨99, 2, 0, 0⟩, ⟨102, 1, 0, 0⟩, ⟨137, 4, 0, 166⟩, ⟨143, 2, 0, 0⟩, ⟨99, 3, 0, 0⟩, ⟨102, 2, 0, 0⟩,
  ⟨77, 2, 0, 0⟩, ⟨143, 3, 0, 0⟩, ⟨178, 2, 0, 0⟩, ⟨77, 3, 0, 0⟩, ⟨174, 2, 0, 0⟩, ⟨77, 4, 0, 0⟩,
  ⟨77, 5, 0, 0⟩, ⟨123, 1, 0, 167⟩, ⟨123, 2, 0, 167⟩, ⟨152, 2, 0, 0⟩, ⟨151, 2, 0, 0⟩,
  ⟨185, 2, 0, 0⟩, ⟨184, 2, 0, 0⟩, ⟨177, 2, 0, 0⟩, ⟨100, 2, 0, 0⟩, ⟨138, 3, 0, 168⟩,
  ⟨182, 2, 0, 0⟩, ⟨156, 2, 0, 0⟩, ⟨41, 1, 0, 0⟩, ⟨165, 2, 0, 0⟩, ⟨166, 2, 0, 0⟩, ⟨94, 2, 0, 134⟩,
  ⟨42, 2, 0, 0⟩, ⟨39, 3, 0, 0⟩, ⟨168, 2, 0, 0⟩, ⟨94, 3, 0, 169⟩, ⟨94, 3, 0, 6⟩, ⟨167, 2, 0, 0⟩,
  ⟨169, 2, 0, 0⟩, ⟨94, 4, 0, 170⟩, ⟨162, 2, 0, 0⟩, ⟨172, 2, 0, 171⟩, ⟨172, 2, 0, 0⟩,
  ⟨173, 2, 0, 172⟩, ⟨173, 2, 0, 0⟩, ⟨141, 2, 0, 0⟩, ⟨140, 2, 0, 8⟩, ⟨98, 2, 0, 91⟩,
  ⟨137, 3, 0, 8⟩, ⟨140, 3, 0, 16⟩, ⟨151, 2, 0, 16⟩, ⟨142, 3, 0, 0⟩, ⟨141, 3, 0, 0⟩,
  ⟨98, 3, 0, 164⟩, ⟨101, 2, 0, 0⟩, ⟨40, 1, 0, 0⟩, ⟨120, 2, 0, 0⟩, ⟨137, 4, 0, 165⟩,
  ⟨182, 2, 0, 173⟩, ⟨142, 4, 0, 0⟩, ⟨141, 4, 0, 0⟩, ⟨34, 2, 0, 0⟩, ⟨33, 3, 0, 0⟩,
  ⟨108, 2, 0, 156⟩, ⟨45, 1, 0, 0⟩, ⟨137, 5, 0, 166⟩, ⟨142, 5, 0, 0⟩, ⟨108, 3, 0, 174⟩,
  ⟨75, 3, 0, 175⟩, ⟨45, 2, 0, 0⟩, ⟨40, 4, 0, 0⟩, ⟨15, 3, 0, 0⟩, ⟨15, 4, 0, 0⟩, ⟨103, 2, 0, 0⟩,
  ⟨65, 3, 0, 0⟩, ⟨90, 1, 0, 0⟩, ⟨65, 4, 0, 0⟩, ⟨65, 5, 0, 0⟩, ⟨61, 2, 0, 0⟩, ⟨61, 3, 0, 0⟩,
  ⟨118, 2, 0, 176⟩]

/-- The layout with the given number. -/
def layout (n : Nat) : Layout :=
  layouts.getD n []

/-- The slot of the `i`-th child under a layout. -/
def Layout.slot (l : Layout) (i : Nat) : Slot :=
  l.getD i ⟨none, none⟩

end JavaNaming.Java.Grammar
