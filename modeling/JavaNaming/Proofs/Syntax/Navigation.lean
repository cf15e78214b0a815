import JavaNaming.Proofs.Syntax.SubtreeWalk

/-!
# Moving through a tree step by step

A run of moves starts at the root of a tree. A move goes to a child, to a named child, to the first child in
a field or to the parent, and where there is no such node it stays. The position after any run is compared
with the tree and with the walk of the whole tree.

* `child?_eq`: a child is known by its index, and the way back to it by the children on both sides.
* `parent?_of_down`: a move down is undone by a move up.
* `rebuildAll_navigate`: going back up from the position leads to the tree, after one move and so after a
  run of moves.
* `exists_places_eq`: the places at and below a position stand together among the places of the tree.
* `navigation_stays_in_tree`: what holds at the position after any run.
-/

namespace JavaNaming.Syntax

/-! ## Moves -/

/-- A request to go to another node. -/
inductive Move where
  | child (n : Nat)
  | namedChild (n : Nat)
  | field (name : String)
  | parent
deriving DecidableEq, Repr

namespace Cursor

/-- Where a move leads to, if there is such a node. -/
def target? (c : Cursor) : Move → Option Cursor
  | .child n => c.child? n
  | .namedChild n => c.namedChild? n
  | .field name => c.field? name
  | .parent => c.parent?

/-- The position after a move. -/
def move (c : Cursor) (m : Move) : Cursor := (c.target? m).getD c

/-- The position after a run of moves. -/
def navigate (c : Cursor) (moves : List Move) : Cursor := moves.foldl move c

end Cursor

/-! ## Children -/

/-- The step from a node down to its child with index `i`. -/
def Tree.stepTo (t : Tree) (i : Nat) : Step :=
  ⟨t.label, (t.children.take i).reverse, t.children.drop (i + 1)⟩

theorem child?_eq (c : Cursor) (i : Nat) :
    c.child? i = (c.focus.children[i]?).map fun u => ⟨u, c.focus.stepTo i :: c.trail⟩ := by
  unfold Cursor.child?
  cases h : c.focus.children[i]? with
  | none => rw [List.drop_eq_nil_of_le (List.getElem?_eq_none_iff.1 h), Option.map_none]
  | some u =>
    obtain ⟨hi, rfl⟩ := List.getElem?_eq_some_iff.1 h
    rw [List.drop_eq_getElem_cons hi]
    rfl

/-- The node above a child is the node that the step went down from. -/
theorem rebuild_stepTo {t u : Tree} {i : Nat} (h : t.children[i]? = some u) :
    Cursor.rebuild (t.stepTo i) u = t := by
  obtain ⟨hi, rfl⟩ := List.getElem?_eq_some_iff.1 h
  cases t with
  | node l cs =>
    simp only [Cursor.rebuild, Tree.stepTo, Tree.label, Tree.children, List.reverse_reverse]
    rw [← List.drop_eq_getElem_cons, List.take_append_drop]

/-- The indices of the named children. -/
def Tree.namedIndices (t : Tree) : List Nat :=
  (List.range t.children.length).filter fun i => ((t.children[i]?).map (·.named)).getD false

theorem namedChild?_eq (c : Cursor) (n : Nat) :
    c.namedChild? n = (c.focus.namedIndices[n]?).bind c.child? := rfl

theorem pairwise_namedIndices (t : Tree) : t.namedIndices.Pairwise (· < ·) :=
  List.pairwise_lt_range.filter _

theorem mem_namedIndices {t : Tree} {i : Nat} :
    i ∈ t.namedIndices ↔ ∃ u, t.children[i]? = some u ∧ u.named = true := by
  rw [Tree.namedIndices, List.mem_filter, List.mem_range]
  cases h : t.children[i]? with
  | none => simp
  | some u =>
    obtain ⟨hi, -⟩ := List.getElem?_eq_some_iff.1 h
    simp [hi]

theorem map_getElem?_filter_range (p : Tree → Bool) (ts : List Tree) :
    ((List.range ts.length).filter fun i => ((ts[i]?).map p).getD false).map (ts[·]?) =
      (ts.filter p).map some := by
  induction ts with
  | nil => rfl
  | cons t ts ih =>
    rw [List.length_cons, List.range_succ_eq_map, List.filter_cons, List.filter_map,
      List.filter_cons]
    have hlater : (((List.range ts.length).filter
        ((fun i => (((t :: ts)[i]?).map p).getD false) ∘ Nat.succ)).map Nat.succ).map
          ((t :: ts)[·]?) = (ts.filter p).map some := by
      rw [← ih, List.map_map]
      rfl
    cases hp : p t with
    | true => simpa [hp] using hlater
    | false => simpa [hp] using hlater

/-- The children at the named indices are the named children, in their order. -/
theorem map_namedIndices (t : Tree) :
    t.namedIndices.map (t.children[·]?) = t.namedChildren.map some :=
  map_getElem?_filter_range (·.named) t.children

theorem map_focus_child? (c : Cursor) (i : Nat) :
    (c.child? i).map (·.focus) = c.focus.children[i]? := by
  rw [child?_eq, Option.map_map]
  exact Option.map_id'

theorem map_focus_namedChild? (c : Cursor) (n : Nat) :
    (c.namedChild? n).map (·.focus) = c.focus.namedChildren[n]? := by
  have hn : (c.focus.namedIndices[n]?).map (c.focus.children[·]?) =
      (c.focus.namedChildren[n]?).map some := by
    rw [← List.getElem?_map, ← List.getElem?_map, map_namedIndices]
  rw [namedChild?_eq, Option.map_bind]
  cases h : c.focus.namedIndices[n]? with
  | none =>
    rw [h, Option.map_none] at hn
    rw [Option.map_eq_none_iff.1 hn.symm, Option.bind_none]
  | some i =>
    rw [h, Option.map_some] at hn
    obtain ⟨u, hu, hi⟩ := Option.map_eq_some_iff.1 hn.symm
    rw [hu, Option.bind_some, Function.comp_apply, map_focus_child?, ← hi]

theorem map_focus_field? (c : Cursor) (name : String) :
    (c.field? name).map (·.focus) = c.focus.field? name := by
  rw [Cursor.field?, Tree.field?, Tree.fieldIndex?, Option.map_bind,
    List.find?_eq_bind_findIdx?_getElem?]
  congr 1
  funext i
  exact map_focus_child? c i

/-! ## Down and up -/

/-- Every move down goes to the child with some index. -/
theorem child?_of_target? {c d : Cursor} {m : Move} (hm : m ≠ .parent)
    (h : c.target? m = some d) : ∃ i, c.child? i = some d := by
  cases m with
  | child n => exact ⟨n, h⟩
  | namedChild n =>
    obtain ⟨i, -, hi⟩ := Option.bind_eq_some_iff.1 h
    exact ⟨i, hi⟩
  | field name =>
    obtain ⟨i, -, hi⟩ := Option.bind_eq_some_iff.1 h
    exact ⟨i, hi⟩
  | parent => exact absurd rfl hm

theorem parent?_of_child? {c d : Cursor} {i : Nat} (h : c.child? i = some d) :
    d.parent? = some c := by
  rw [child?_eq] at h
  obtain ⟨u, hu, rfl⟩ := Option.map_eq_some_iff.1 h
  show some (Cursor.mk (Cursor.rebuild (c.focus.stepTo i) u) c.trail) = some c
  rw [rebuild_stepTo hu]

/-- **A move down is undone by a move up.** -/
theorem parent?_of_down {c d : Cursor} {m : Move} (hm : m ≠ .parent)
    (h : c.target? m = some d) : d.target? .parent = some c := by
  obtain ⟨i, hi⟩ := child?_of_target? hm h
  exact parent?_of_child? hi

/-- The parent is the node that the path without its last step leads to. -/
theorem map_path_parent? (c : Cursor) :
    (c.target? .parent).map (·.path) = if c.path = [] then none else some c.path.dropLast := by
  obtain ⟨u, trail⟩ := c
  cases trail with
  | nil => rfl
  | cons s trail => simp [Cursor.target?, Cursor.parent?, trailPath_cons]

/-- The way back from the target of a move leads to the same tree. -/
theorem rebuildAll_target? {c d : Cursor} {m : Move} (h : c.target? m = some d) :
    rebuildAll d.focus d.trail = rebuildAll c.focus c.trail := by
  have hup : ∀ {c d : Cursor}, c.parent? = some d →
      rebuildAll d.focus d.trail = rebuildAll c.focus c.trail := by
    intro c d h
    obtain ⟨u, trail⟩ := c
    cases trail with
    | nil => cases h
    | cons s trail =>
      cases h
      rfl
  by_cases hm : m = .parent
  · subst hm
    exact hup h
  · exact (hup (parent?_of_down hm h)).symm

/-- One move keeps the tree that the position lies in. -/
theorem rebuildAll_move (c : Cursor) (m : Move) :
    rebuildAll (c.move m).focus (c.move m).trail = rebuildAll c.focus c.trail := by
  unfold Cursor.move
  cases h : c.target? m with
  | none => rfl
  | some d => exact rebuildAll_target? h

/-- **A run of moves** keeps the tree that the position lies in. -/
theorem rebuildAll_navigate (c : Cursor) (moves : List Move) :
    rebuildAll (c.navigate moves).focus (c.navigate moves).trail =
      rebuildAll c.focus c.trail := by
  induction moves generalizing c with
  | nil => rfl
  | cons m moves ih =>
    show rebuildAll ((c.move m).navigate moves).focus ((c.move m).navigate moves).trail = _
    rw [ih, rebuildAll_move]

/-! ## The places below a position -/

theorem exists_placesAmong_append (l : Label) (trail : List Step) (left ts us : List Tree) :
    ∃ before, placesAmong l trail left (ts ++ us) =
      before ++ placesAmong l trail (ts.reverse ++ left) us := by
  induction ts generalizing left with
  | nil => exact ⟨[], rfl⟩
  | cons t ts ih =>
    obtain ⟨before, h⟩ := ih (t :: left)
    refine ⟨placesFrom (⟨l, left, ts ++ us⟩ :: trail) t ++ before, ?_⟩
    simp [placesAmong, h]

/-- **The places at and below a position** stand together among the places of the tree. -/
theorem exists_places_eq (u : Tree) (trail : List Step) :
    ∃ before after, places (rebuildAll u trail) = before ++ placesFrom trail u ++ after := by
  induction trail generalizing u with
  | nil => exact ⟨[], [], by simp [rebuildAll, places]⟩
  | cons s trail ih =>
    obtain ⟨l, left, right⟩ := s
    obtain ⟨before, after, h⟩ := ih (Cursor.rebuild ⟨l, left, right⟩ u)
    -- Below the node above, the earlier siblings come first, then the position, then the later ones.
    obtain ⟨earlier, hearlier⟩ := exists_placesAmong_append l trail [] left.reverse (u :: right)
    refine ⟨before ++ ⟨Cursor.rebuild ⟨l, left, right⟩ u, trail⟩ :: earlier,
      placesAmong l trail (u :: left) right ++ after, ?_⟩
    rw [rebuildAll, h]
    simp only [Cursor.rebuild, placesFrom, hearlier, placesAmong, List.reverse_reverse,
      List.append_nil, List.append_assoc, List.cons_append]

/-- A place of a subtree as a place of the whole tree. -/
def Cursor.under (trail : List Step) (c : Cursor) : Cursor := ⟨c.focus, c.trail ++ trail⟩

mutual

theorem placesFrom_append (inner trail : List Step) : ∀ t : Tree,
    placesFrom (inner ++ trail) t = (placesFrom inner t).map (Cursor.under trail)
  | .node l cs => by
    rw [placesFrom, placesFrom, List.map_cons, placesAmong_append inner trail l [] cs]
    rfl

theorem placesAmong_append (inner trail : List Step) (l : Label) (left : List Tree) :
    ∀ ts : List Tree, placesAmong l (inner ++ trail) left ts =
      (placesAmong l inner left ts).map (Cursor.under trail)
  | [] => rfl
  | t :: ts => by
    rw [placesAmong, placesAmong, List.map_append, ← List.cons_append,
      placesFrom_append (⟨l, left, ts⟩ :: inner) trail t, placesAmong_append inner trail l (t :: left) ts]

end

/-- A walk from a position gives the answers of the walk of the whole tree from some request on, as many
as the position has nodes at and below it. -/
theorem exists_answer_eq (c : Cursor) :
    ∃ i, ∀ n, ((Walker.ofTree c.focus).answer n).map (Cursor.under c.trail) =
      if n < c.focus.size then
        (Walker.ofTree (rebuildAll c.focus c.trail)).answer (i + n)
      else none := by
  obtain ⟨before, after, h⟩ := exists_places_eq c.focus c.trail
  have hplaces : placesFrom c.trail c.focus = (places c.focus).map (Cursor.under c.trail) :=
    placesFrom_append [] c.trail c.focus
  have hlength : (placesFrom c.trail c.focus).length = c.focus.size := length_placesFrom _ _
  refine ⟨before.length, fun n => ?_⟩
  rw [answer_ofTree, answer_ofTree, ← List.getElem?_map, ← hplaces]
  split
  · rename_i hn
    rw [h, List.append_assoc, List.getElem?_append_right (Nat.le_add_right _ _),
      Nat.add_sub_cancel_left, List.getElem?_append_left (hlength ▸ hn)]
  · rename_i hn
    exact List.getElem?_eq_none (hlength ▸ Nat.le_of_not_lt hn)

theorem Tree.size_pos (t : Tree) : 0 < t.size := by
  cases t with
  | node l cs =>
    rw [Tree.size]
    omega

/-! ## The position after a run -/

/-- **A run of moves stays in the tree.** For every tree and every run of moves from its root, the position
reached is the node of the tree at its path. From there a move leads to the child, the named child or the
first child in the field that was asked for, or to the node above, which only the root lacks, and a move up
right after a move down leads back. The named children are the children at certain increasing indices, which
are exactly those of named ones. A walk from the position gives the answers of the walk of the whole tree
from some request on, starting with the position itself, for as many requests as there are nodes in its
subtree, and nothing after them. -/
theorem navigation_stays_in_tree (t : Tree) (moves : List Move) (c : Cursor)
    (hc : (Cursor.ofTree t).navigate moves = c) :
    t.at? c.path = some c.focus ∧
      ((∀ n, (c.target? (.child n)).map (·.focus) = c.focus.children[n]?) ∧
        (∀ n, (c.target? (.namedChild n)).map (·.focus) = c.focus.namedChildren[n]?) ∧
        (∀ name, (c.target? (.field name)).map (·.focus) = c.focus.field? name) ∧
        (c.target? .parent).map (·.path) = if c.path = [] then none else some c.path.dropLast) ∧
      (∀ m d, m ≠ .parent → c.target? m = some d → d.target? .parent = some c) ∧
      (∃ indices : List Nat, indices.Pairwise (· < ·) ∧
        (∀ i, i ∈ indices ↔ ∃ u, c.focus.children[i]? = some u ∧ u.named = true) ∧
        indices.map (c.focus.children[·]?) = c.focus.namedChildren.map some) ∧
      ∃ i, (Walker.ofTree t).answer i = some c ∧
        ∀ n, ((Walker.ofTree c.focus).answer n).map (Cursor.under c.trail) =
          if n < c.focus.size then (Walker.ofTree t).answer (i + n) else none := by
  have ht : rebuildAll c.focus c.trail = t := by
    rw [← hc, rebuildAll_navigate]
    rfl
  refine ⟨?_, ⟨map_focus_child? c, map_focus_namedChild? c, map_focus_field? c, map_path_parent? c⟩,
    fun m d => parent?_of_down, ?_, ?_⟩
  · rw [← ht]
    exact at?_rebuildAll c.trail c.focus
  · exact ⟨c.focus.namedIndices, pairwise_namedIndices _, fun i => mem_namedIndices,
      map_namedIndices _⟩
  · obtain ⟨i, hi⟩ := exists_answer_eq c
    rw [ht] at hi
    refine ⟨i, ?_, hi⟩
    have hfirst := hi 0
    rw [if_pos c.focus.size_pos] at hfirst
    exact hfirst.symm

/-- A class with its parts in their fields. -/
def classWithFields : Tree :=
  let label (kind : String) (named : Bool) (i j : Nat) (field : Option String) : Label :=
    ⟨kind, named, .upTo i j, field, .sound, false⟩
  .node (label "program" true 0 9 none)
    [.node (label "class_declaration" true 0 9 none)
      [.node (label "class" false 0 5 none) [], .node (label "identifier" true 6 7 (some "name")) [],
        .node (label "class_body" true 7 9 (some "body"))
          [.node (label "\x7b" false 7 8 none) [], .node (label "\x7d" false 8 9 none) []]]]

/-- The run goes to the class, fails to find a sixth child, goes to the name and back, and then to the
second named child, which is the body. A walk from there gives three answers, which are those of the walk of
the whole tree from some request on. -/
theorem navigation_stays_in_tree_body :
    ∃ c, (Cursor.ofTree classWithFields).navigate
        [.namedChild 0, .child 5, .field "name", .parent, .namedChild 1] = c ∧
      c.path = [0, 2] ∧ classWithFields.at? [0, 2] = some c.focus ∧
      c.focus.namedChildren.length = 0 ∧ c.focus.children.length = 2 ∧
      ∃ i, (Walker.ofTree classWithFields).answer i = some c ∧
        ∀ n, ((Walker.ofTree c.focus).answer n).map (Cursor.under c.trail) =
          if n < 3 then (Walker.ofTree classWithFields).answer (i + n) else none := by
  obtain ⟨hnode, -, -, -, hwalk⟩ := navigation_stays_in_tree classWithFields
    [.namedChild 0, .child 5, .field "name", .parent, .namedChild 1] _ rfl
  exact ⟨_, rfl, by decide, hnode, by decide, by decide, hwalk⟩

end JavaNaming.Syntax
