import JavaNaming.Syntax.Tree

/-!
# Moving through a tree

A cursor is a node together with the way back to the node that the cursor was made at. It moves to a
child, to the next sibling and to the parent, and it never leaves the node it was made at.
-/

namespace JavaNaming.Syntax

/-- One step down: the parent's label, the siblings to the left, nearest first, and those to the
right. -/
structure Step where
  label : Label
  left : List Tree
  right : List Tree
deriving Repr

/-- A node and the way back, innermost step first. -/
structure Cursor where
  focus : Tree
  trail : List Step
deriving Repr

namespace Cursor

/-- A cursor at the root of a tree. -/
def ofTree (t : Tree) : Cursor := ⟨t, []⟩

/-- The node above one that was reached by a step. -/
def rebuild (s : Step) (t : Tree) : Tree :=
  .node s.label (s.left.reverse ++ t :: s.right)

/-- The child with a given index. -/
def child? (c : Cursor) (i : Nat) : Option Cursor :=
  match c.focus.children.drop i with
  | [] => none
  | t :: right =>
    some ⟨t, ⟨c.focus.label, (c.focus.children.take i).reverse, right⟩ :: c.trail⟩

/-- The first child. -/
def firstChild? (c : Cursor) : Option Cursor := c.child? 0

/-- The next sibling. -/
def nextSibling? (c : Cursor) : Option Cursor :=
  match c.trail with
  | ⟨label, left, t :: right⟩ :: trail => some ⟨t, ⟨label, c.focus :: left, right⟩ :: trail⟩
  | _ => none

/-- The parent. -/
def parent? (c : Cursor) : Option Cursor :=
  match c.trail with
  | s :: trail => some ⟨rebuild s c.focus, trail⟩
  | [] => none

/-- The child with a given index among the named children. -/
def namedChild? (c : Cursor) (n : Nat) : Option Cursor :=
  let indices := (List.range c.focus.children.length).filter fun i =>
    ((c.focus.children[i]?).map (·.named)).getD false
  (indices[n]?).bind c.child?

/-- The first child in a field. -/
def field? (c : Cursor) (field : String) : Option Cursor :=
  (c.focus.fieldIndex? field).bind c.child?

/-- The kind of the parent. -/
def parentKind? (c : Cursor) : Option String :=
  c.trail.head?.map (·.label.kind)

/-- The child indices that lead to the node. -/
def path (c : Cursor) : List Nat :=
  (c.trail.map (·.left.length)).reverse

end Cursor

end JavaNaming.Syntax
