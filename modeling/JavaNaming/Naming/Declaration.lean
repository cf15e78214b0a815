import JavaNaming.Naming.Category
import JavaNaming.Syntax.Walker

/-!
# Declared names

Which names a node of the syntax tree declares. A name is a node at or below the declaring one, and
`namePaths` gives the way to it, as child indices.

The declarator of a variable number of arguments names a parameter and not a variable.
-/

namespace JavaNaming.Naming

open Syntax (Tree Cursor)

/-- The way to the child in the field for names. -/
def nameField (t : Tree) : List (List Nat) :=
  (t.fieldIndex? "name").toList.map ([·])

/-- The ways to the children for which a condition holds, with their indices. -/
def childrenWhere (p : Tree → Bool) (t : Tree) : List (Nat × Tree) :=
  (t.children.zipIdx.filter fun (c, _) => p c).map fun (c, i) => (i, c)

/-- The names of the declarators that stand directly below a node. -/
def declaratorNames (t : Tree) : List (List Nat) :=
  (childrenWhere (·.kind == "variable_declarator") t).flatMap fun (i, c) =>
    (nameField c).map (i :: ·)

/-- The parameter of a lambda expression that is a lone name. -/
def lambdaName (t : Tree) : List (List Nat) :=
  match t.fieldIndex? "parameters" with
  | some i => if (t.children[i]?).any (·.kind == "identifier") then [[i]] else []
  | none => []

/-- The names among the children of a node. -/
def identifierChildren (t : Tree) : List (List Nat) :=
  (childrenWhere (fun c => c.named && c.kind == "identifier") t).map fun (i, _) => [i]

/-- The ways to the names of a category that a node declares, given the kind of its parent. -/
def namePaths (category : Category) (parentKind : Option String) (t : Tree) : List (List Nat) :=
  match category, t.kind with
  | .parameter, "formal_parameter" => nameField t
  | .parameter, "catch_formal_parameter" => nameField t
  | .parameter, "spread_parameter" => declaratorNames t
  | .parameter, "lambda_expression" => lambdaName t
  | .parameter, "inferred_parameters" => identifierChildren t
  | .variable, "variable_declarator" =>
    if parentKind = some "spread_parameter" then [] else nameField t
  | .variable, "enhanced_for_statement" => nameField t
  | .variable, "resource" => nameField t
  | .method, "method_declaration" => nameField t
  | .type, "class_declaration" => nameField t
  | .type, "interface_declaration" => nameField t
  | _, _ => []

/-- A declared name. -/
structure Identifier where
  category : Category
  name : String
  range : Text.Range
  /-- The way to the name from the root of the tree. -/
  path : List Nat
deriving DecidableEq, Repr

/-- The names of a category that the node at a cursor declares, in the order of the text. -/
def declared (source : List Char) (category : Category) (c : Cursor) : List Identifier :=
  (namePaths category c.parentKind? c.focus).filterMap fun path =>
    (c.focus.at? path).map fun t =>
      { category
        name := String.ofList ((t.text? source).getD [])
        range := t.range
        path := c.path ++ path }

end JavaNaming.Naming
