import JavaNaming.Syntax.Tree
import JavaNaming.Text.Point

/-!
# Outlines

The outline of a tree has its named nodes, each with its kind, the point where it starts, and the text of
its name if it has one. `Outline.render` writes one line for each node, indented by its depth.
-/

namespace JavaNaming.Syntax

/-- The named nodes of a tree. -/
inductive Outline where
  | node (kind : String) (point : Text.Point) (name? : Option (List Char)) (children : List Outline)

/-- The field in which the name of a node stands. -/
def nameField : String := "name"

namespace Tree

/-- The text of the name of a node. -/
def name? (t : Tree) (source : List Char) : Option (List Char) :=
  (t.field? nameField).bind (·.text? source)

mutual

/-- The outline of a tree. -/
def outline (source : List Char) : Tree → Outline
  | node label children =>
    .node label.kind (Text.Point.ofOffset source label.range.start)
      ((node label children).name? source) (outlines source children)

/-- The outlines of the named trees among some. -/
def outlines (source : List Char) : List Tree → List Outline
  | [] => []
  | t :: ts => if t.named then outline source t :: outlines source ts else outlines source ts

end

end Tree

namespace Outline

/-- The line of a node, without its indentation and its end. -/
def heading (kind : String) (point : Text.Point) (name? : Option (List Char)) : String :=
  let place := s!"{kind} [{point.row + 1}:{point.column + 1}]"
  match name? with
  | some name => place ++ " name=" ++ String.ofList name
  | none => place

mutual

/-- The lines of an outline at a depth. -/
def render (depth : Nat) : Outline → String
  | node kind point name? children =>
    "".pushn ' ' (2 * depth) ++ heading kind point name? ++ "\n" ++ renderAll (depth + 1) children

/-- The lines of several outlines at a depth. -/
def renderAll (depth : Nat) : List Outline → String
  | [] => ""
  | o :: os => render depth o ++ renderAll depth os

end

end Outline

end JavaNaming.Syntax
