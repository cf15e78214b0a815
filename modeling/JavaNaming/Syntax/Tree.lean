import JavaNaming.Text.Offset

/-!
# Syntax trees

A node has a kind, a range of the text, and children in the order of the text. Anonymous nodes are
the tokens without a name of their own, such as punctuation. A node may stand in a named field of
its parent. Damaged text shows up as error nodes and as missing tokens.

`preorder` lists the nodes of a tree, each before its children and the children from left to right.
-/

namespace JavaNaming.Syntax

/-- Whether a node stands for sound text, damaged text, or a token that is not there. -/
inductive Mark where
  | sound
  | error
  | missing
deriving DecidableEq, Repr

/-- What is known of a node besides its children. -/
structure Label where
  kind : String
  named : Bool
  range : Text.Range
  /-- The field of the parent in which the node stands. -/
  field : Option String
  mark : Mark
  /-- Whether the node or one below it is damaged. -/
  damaged : Bool
deriving DecidableEq, Repr

/-- A syntax tree. -/
inductive Tree where
  | node (label : Label) (children : List Tree)
deriving Repr

namespace Tree

/-- What is known of the root. -/
def label : Tree → Label
  | node l _ => l

/-- The children of the root, anonymous ones included. -/
def children : Tree → List Tree
  | node _ cs => cs

/-- The kind of the root. -/
def kind (t : Tree) : String := t.label.kind

/-- Whether the root has a name of its own. -/
def named (t : Tree) : Bool := t.label.named

/-- The range of the root. -/
def range (t : Tree) : Text.Range := t.label.range

/-- The named children. -/
def namedChildren (t : Tree) : List Tree := t.children.filter (·.named)

/-- The index of the first child in a field. -/
def fieldIndex? (t : Tree) (field : String) : Option Nat :=
  t.children.findIdx? fun c => c.label.field == some field

/-- The first child in a field. -/
def field? (t : Tree) (field : String) : Option Tree :=
  t.children.find? fun c => c.label.field == some field

/-- The node that a list of child indices leads to. -/
def at? : Tree → List Nat → Option Tree
  | t, [] => some t
  | t, i :: path => (t.children[i]?).bind fun c => at? c path

mutual

/-- Number of nodes. -/
def size : Tree → Nat
  | node _ cs => 1 + sizeAll cs

/-- Number of nodes of several trees. -/
def sizeAll : List Tree → Nat
  | [] => 0
  | t :: ts => size t + sizeAll ts

end

mutual

/-- The nodes, each before its children and the children from left to right. -/
def preorder : Tree → List Tree
  | node l cs => node l cs :: preorderAll cs

/-- The nodes of several trees in turn. -/
def preorderAll : List Tree → List Tree
  | [] => []
  | t :: ts => preorder t ++ preorderAll ts

end

/-- The text that a node covers. -/
def text? (t : Tree) (source : List Char) : Option (List Char) :=
  Text.slice? source t.range

end Tree

end JavaNaming.Syntax
