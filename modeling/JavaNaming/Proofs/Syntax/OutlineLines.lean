import JavaNaming.Syntax.Outline
import Mathlib.Algebra.GroupWithZero.Nat
import Mathlib.Data.List.Basic

/-!
# The lines of an outline

An outline is written with one entry for each node, indented by its depth. The entries stand in the order in
which the tree is gone through by way of named children alone.

* `namedNodes_eq`: the nodes that named children lead to, in pre-order.
* `outline_eq`, `map_content_entries`: the outline of a tree shows exactly these nodes.
* `toList_render`: an outline is the lines of its entries, each with a line feed behind it.
* `toList_heading`: what stands in a line.
* `count_render`: the line feeds of an outline are one for each entry, and those inside its lines.
-/

namespace JavaNaming.Syntax

namespace Tree

/-! ## Named nodes -/

mutual

/-- The nodes that are reached from the root through named children, the root first. -/
def namedNodes : Tree → List Tree
  | node l cs => node l cs :: namedNodesAmong cs

/-- The nodes that are reached from the named trees among some. -/
def namedNodesAmong : List Tree → List Tree
  | [] => []
  | t :: ts => if t.named then namedNodes t ++ namedNodesAmong ts else namedNodesAmong ts

end

theorem namedNodesAmong_eq (ts : List Tree) :
    namedNodesAmong ts = (ts.filter (·.named)).flatMap namedNodes := by
  induction ts with
  | nil => rfl
  | cons t ts ih =>
    rw [namedNodesAmong, List.filter_cons, ih]
    split <;> rfl

/-- **The named nodes** are the root and the named nodes of its named children. -/
theorem namedNodes_eq (t : Tree) : t.namedNodes = t :: t.namedChildren.flatMap namedNodes := by
  cases t with
  | node l cs =>
    rw [namedNodes, namedNodesAmong_eq]
    rfl

theorem outlines_eq (source : List Char) (ts : List Tree) :
    outlines source ts = (ts.filter (·.named)).map (outline source) := by
  induction ts with
  | nil => rfl
  | cons t ts ih =>
    rw [outlines, List.filter_cons, ih]
    split <;> rfl

/-- **The outline of a tree** has the outlines of its named children below it. -/
theorem outline_eq (source : List Char) (t : Tree) :
    t.outline source = .node t.kind (Text.Point.ofOffset source t.range.start) (t.name? source)
      (t.namedChildren.map (outline source)) := by
  cases t with
  | node l cs =>
    rw [outline, outlines_eq]
    rfl

end Tree

namespace Outline

/-! ## Entries -/

/-- What is shown of one node, with its depth. -/
structure Entry where
  depth : Nat
  kind : String
  point : Text.Point
  name? : Option (List Char)
deriving DecidableEq, Repr

mutual

/-- The entries of an outline at a depth, each before those below it. -/
def entries (depth : Nat) : Outline → List Entry
  | node kind point name? children =>
    ⟨depth, kind, point, name?⟩ :: entriesAll (depth + 1) children

/-- The entries of several outlines at a depth. -/
def entriesAll (depth : Nat) : List Outline → List Entry
  | [] => []
  | o :: os => entries depth o ++ entriesAll depth os

end

/-- An entry without its depth. -/
def Entry.content (e : Entry) : String × Text.Point × Option (List Char) :=
  (e.kind, e.point, e.name?)

/-- What is shown of a node. -/
def contentOf (source : List Char) (t : Tree) : String × Text.Point × Option (List Char) :=
  (t.kind, Text.Point.ofOffset source t.range.start, t.name? source)

mutual

/-- The entries of the outline of a tree show its named nodes. -/
theorem map_content_entries (source : List Char) (depth : Nat) : ∀ t : Tree,
    ((t.outline source).entries depth).map Entry.content = t.namedNodes.map (contentOf source)
  | .node l cs => by
    rw [Tree.outline, entries, Tree.namedNodes, List.map_cons, List.map_cons,
      map_content_entriesAll source (depth + 1) cs]
    rfl

theorem map_content_entriesAll (source : List Char) (depth : Nat) : ∀ ts : List Tree,
    (entriesAll depth (Tree.outlines source ts)).map Entry.content =
      (Tree.namedNodesAmong ts).map (contentOf source)
  | [] => rfl
  | t :: ts => by
    rw [Tree.outlines, Tree.namedNodesAmong]
    split
    · rw [entriesAll, List.map_append, List.map_append, map_content_entries source depth t,
        map_content_entriesAll source depth ts]
    · exact map_content_entriesAll source depth ts

end

/-! ## Lines -/

/-- The line of an entry, without its end. -/
def Entry.line (e : Entry) : List Char :=
  List.replicate (2 * e.depth) ' ' ++ (heading e.kind e.point e.name?).toList

theorem toList_pushn (c : Char) (n : Nat) : ("".pushn c n).toList = List.replicate n c := by
  rw [String.pushn_eq_repeat_push]
  induction n with
  | zero => rfl
  | succ n ih => rw [Nat.repeat, String.toList_push, ih, List.replicate_succ']

mutual

/-- **An outline is written line by line.** -/
theorem toList_render (depth : Nat) : ∀ o : Outline,
    (o.render depth).toList = ((o.entries depth).map Entry.line).flatMap (· ++ ['\n'])
  | .node kind point name? children => by
    rw [render, entries, List.map_cons, List.flatMap_cons, ← toList_renderAll (depth + 1) children]
    simp only [String.toList_append, toList_pushn]
    rfl

theorem toList_renderAll (depth : Nat) : ∀ os : List Outline,
    (renderAll depth os).toList = ((entriesAll depth os).map Entry.line).flatMap (· ++ ['\n'])
  | [] => rfl
  | o :: os => by
    rw [renderAll, entriesAll, String.toList_append, List.map_append, List.flatMap_append,
      toList_render depth o, toList_renderAll depth os]

end

/-- What stands in a line after the place of the node. -/
def nameNote (name? : Option (List Char)) : List Char :=
  name?.elim [] (" name=".toList ++ ·)

/-- **A heading** is the kind, the row and the column in brackets, and the name if there is one. -/
theorem toList_heading (kind : String) (point : Text.Point) (name? : Option (List Char)) :
    (heading kind point name?).toList =
      kind.toList ++ " [".toList ++ Nat.toDigits 10 (point.row + 1) ++ ":".toList ++
        Nat.toDigits 10 (point.column + 1) ++ "]".toList ++ nameNote name? := by
  have hplace : s!"{kind} [{point.row + 1}:{point.column + 1}]".toList =
      kind.toList ++ " [".toList ++ Nat.toDigits 10 (point.row + 1) ++ ":".toList ++
        Nat.toDigits 10 (point.column + 1) ++ "]".toList := by
    simp only [String.toList_append, ← Nat.toList_repr]
    rfl
  cases name? with
  | none => exact hplace.trans (List.append_nil _).symm
  | some name =>
    have hname : (String.ofList name).toList = name := String.toList_ofList
    rw [heading, String.toList_append, String.toList_append, hplace, hname]
    exact List.append_assoc _ _ _

/-! ## Line feeds -/

theorem count_lineFeed_toDigits (n : Nat) : (Nat.toDigits 10 n).count '\n' = 0 := by
  refine List.count_eq_zero.2 fun h => ?_
  exact absurd (Nat.isDigit_of_mem_toDigits (by decide) (by decide) h) (by decide)

/-- A line has the line feeds of the kind and of the name. -/
theorem count_line (e : Entry) :
    e.line.count '\n' = e.kind.toList.count '\n' + (e.name?.getD []).count '\n' := by
  have hname : (nameNote e.name?).count '\n' = (e.name?.getD []).count '\n' := by
    cases e.name? with
    | none => rfl
    | some name =>
      show (" name=".toList ++ name).count '\n' = name.count '\n'
      rw [List.count_append, Nat.add_eq_right]
      decide
  have hseparators : " [".toList.count '\n' = 0 ∧ ":".toList.count '\n' = 0 ∧
      "]".toList.count '\n' = 0 := by decide
  obtain ⟨hopen, hcolon, hclose⟩ := hseparators
  have hindent : (List.replicate (2 * e.depth) ' ').count '\n' = 0 :=
    List.count_replicate.trans (if_neg (by decide))
  simp only [Entry.line, toList_heading, List.count_append, hname, hopen, hcolon, hclose, hindent,
    count_lineFeed_toDigits, Nat.add_zero, Nat.zero_add]

/-- **The line feeds of an outline** are one for each entry, and those inside the lines. -/
theorem count_render (depth : Nat) (o : Outline) :
    (o.render depth).toList.count '\n' =
      (o.entries depth).length + ((o.entries depth).map fun e => e.line.count '\n').sum := by
  rw [toList_render]
  induction o.entries depth with
  | nil => rfl
  | cons e es ih =>
    simp only [List.map_cons, List.flatMap_cons, List.count_append, ih, List.count_singleton_self,
      List.length_cons, List.sum_cons]
    omega

end Outline

end JavaNaming.Syntax
