import JavaNaming.Syntax.Cursor

/-!
# Walking a tree

A walker visits the nodes below the one it was made at, one per step. It goes to the first child if
there is one, else to the next sibling of the nearest node on the way back that has one.
-/

namespace JavaNaming.Syntax

/-- A walk under way: the node to visit next, or nothing once the walk has ended. -/
structure Walker where
  next? : Option Cursor

namespace Walker

/-- A walk of the whole tree. -/
def ofTree (t : Tree) : Walker := ⟨some (.ofTree t)⟩

/-- The next sibling of the nearest node on a way back that has one. -/
def climb (t : Tree) : List Step → Option Cursor
  | [] => none
  | s :: trail =>
    match (Cursor.mk t (s :: trail)).nextSibling? with
    | some c => some c
    | none => climb (Cursor.rebuild s t) trail

/-- The node to visit after the one at a cursor. -/
def successor (c : Cursor) : Option Cursor :=
  match c.firstChild? with
  | some d => some d
  | none => climb c.focus c.trail

/-- Visit one node. -/
def step (w : Walker) : Option Cursor × Walker :=
  match w.next? with
  | none => (none, w)
  | some c => (some c, ⟨successor c⟩)

/-- The nodes of the first `n` steps. -/
def run : Nat → Walker → List Cursor
  | 0, _ => []
  | n + 1, w =>
    match w.step with
    | (none, _) => []
    | (some c, w) => c :: run n w

end Walker

/-- The nodes of a tree in the order of a walk, each with its place. -/
def walk (t : Tree) : List Cursor :=
  Walker.run t.size (.ofTree t)

end JavaNaming.Syntax
