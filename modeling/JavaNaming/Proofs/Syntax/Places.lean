import JavaNaming.Syntax.Walker
import Mathlib.Data.List.Nodup

/-!
# The places of a tree

`places t` lists the cursors of a tree by plain recursion: a node first, then the places below each of
its children from left to right. The walker, which keeps only one cursor and climbs, yields the same
list.

* `walk_eq_places`: a walk visits exactly the places of the tree, in this order. The invariant is what
  is still to come at a cursor (`pending`): one step takes its head away (`pending_eq`).
* `map_focus_places`, `map_path_places`: the nodes at the places are the pre-order of the tree, and the
  ways to them are its `paths`.
* `at?_path`, `parentKind?_eq`: a place is the node that its path leads to, and the kind above it is
  the kind of the node that the path without its last step leads to.
* `nodup_paths`, `mem_paths`: every node has exactly one path.
-/

namespace JavaNaming.Syntax

mutual

/-- The places of a tree to which `trail` leads back. -/
def placesFrom (trail : List Step) : Tree → List Cursor
  | .node l cs => ⟨.node l cs, trail⟩ :: placesAmong l trail [] cs

/-- The places of the last children of a node. `left` holds the children before them, nearest
first. -/
def placesAmong (l : Label) (trail : List Step) (left : List Tree) : List Tree → List Cursor
  | [] => []
  | t :: ts => placesFrom (⟨l, left, ts⟩ :: trail) t ++ placesAmong l trail (t :: left) ts

end

/-- The places of a tree, each before those below it and these from left to right. -/
def places (t : Tree) : List Cursor := placesFrom [] t

/-! ## The walk -/

/-- The places that come after the whole of a tree to which `trail` leads back. -/
def placesAfter (t : Tree) : List Step → List Cursor
  | [] => []
  | s :: trail =>
    placesAmong s.label trail (t :: s.left) s.right ++ placesAfter (Cursor.rebuild s t) trail

/-- The places still to come in a walk that is about to visit `c`. -/
def pending (c : Cursor) : List Cursor :=
  placesFrom c.trail c.focus ++ placesAfter c.focus c.trail

/-- The places still to come, where the walk may have ended. -/
def pending? : Option Cursor → List Cursor
  | none => []
  | some c => pending c

theorem pending_climb : ∀ (trail : List Step) (t : Tree),
    pending? (Walker.climb t trail) = placesAfter t trail
  | [], _ => rfl
  | ⟨l, left, []⟩ :: trail, t => by
    simp only [Walker.climb, Cursor.nextSibling?, placesAfter, placesAmong, List.nil_append]
    exact pending_climb trail _
  | ⟨l, left, u :: right⟩ :: trail, t => by
    simp [Walker.climb, Cursor.nextSibling?, placesAfter, placesAmong, pending?, pending,
      Cursor.rebuild]

/-- **One step of a walk** visits the first of the places still to come. -/
theorem pending_eq (c : Cursor) : pending c = c :: pending? (Walker.successor c) := by
  obtain ⟨⟨l, cs⟩, trail⟩ := c
  cases cs with
  | nil =>
    simp [pending, placesFrom, placesAmong, Walker.successor, Cursor.firstChild?, Cursor.child?,
      Tree.children, pending_climb]
  | cons t ts =>
    simp [pending, pending?, placesFrom, placesAmong, placesAfter, Walker.successor,
      Cursor.firstChild?, Cursor.child?, Tree.children, Tree.label, Cursor.rebuild]

theorem run_eq_take : ∀ (n : Nat) (w : Walker), Walker.run n w = (pending? w.next?).take n
  | 0, _ => by simp [Walker.run]
  | _ + 1, ⟨none⟩ => by simp [Walker.run, Walker.step, pending?]
  | n + 1, ⟨some c⟩ => by
    simp only [Walker.run, Walker.step, run_eq_take n, pending?, pending_eq c, List.take_succ_cons]

mutual

theorem length_placesFrom (trail : List Step) : ∀ t, (placesFrom trail t).length = t.size
  | .node l cs => by
    simp only [placesFrom, Tree.size, List.length_cons, length_placesAmong l trail [] cs]
    omega

theorem length_placesAmong (l : Label) (trail : List Step) (left : List Tree) :
    ∀ ts, (placesAmong l trail left ts).length = Tree.sizeAll ts
  | [] => rfl
  | t :: ts => by
    simp only [placesAmong, Tree.sizeAll, List.length_append, length_placesFrom _ t,
      length_placesAmong l trail (t :: left) ts]

end

/-- At the start of a walk all places are still to come. -/
theorem pending_ofTree (t : Tree) : pending? (Walker.ofTree t).next? = places t := by
  simp [Walker.ofTree, Cursor.ofTree, pending?, pending, placesAfter, places]

/-- **A walk visits the places of the tree**, each once and in order. -/
theorem walk_eq_places (t : Tree) : walk t = places t := by
  rw [walk, run_eq_take, pending_ofTree]
  exact List.take_of_length_le (Nat.le_of_eq (length_placesFrom [] t))

/-! ## Nodes and paths -/

mutual

theorem map_focus_placesFrom (trail : List Step) :
    ∀ t, (placesFrom trail t).map (·.focus) = t.preorder
  | .node l cs => by
    simp only [placesFrom, Tree.preorder, List.map_cons, map_focus_placesAmong l trail [] cs]

theorem map_focus_placesAmong (l : Label) (trail : List Step) (left : List Tree) :
    ∀ ts, (placesAmong l trail left ts).map (·.focus) = Tree.preorderAll ts
  | [] => rfl
  | t :: ts => by
    simp only [placesAmong, Tree.preorderAll, List.map_append, map_focus_placesFrom _ t,
      map_focus_placesAmong l trail (t :: left) ts]

end

/-- The nodes at the places of a tree are its nodes in pre-order. -/
theorem map_focus_places (t : Tree) : (places t).map (·.focus) = t.preorder :=
  map_focus_placesFrom [] t

mutual

/-- The child indices that lead to the nodes of a tree, in pre-order. -/
def Tree.paths : Tree → List (List Nat)
  | .node _ cs => [] :: Tree.pathsAmong 0 cs

/-- The paths into the last children of a node, the first of which has index `i`. -/
def Tree.pathsAmong (i : Nat) : List Tree → List (List Nat)
  | [] => []
  | t :: ts => t.paths.map (i :: ·) ++ Tree.pathsAmong (i + 1) ts

end

/-- The path of the node that a trail leads back from. -/
def trailPath (trail : List Step) : List Nat := (trail.map (·.left.length)).reverse

@[simp] theorem path_mk (t : Tree) (trail : List Step) :
    Cursor.path ⟨t, trail⟩ = trailPath trail := rfl

theorem trailPath_cons (s : Step) (trail : List Step) :
    trailPath (s :: trail) = trailPath trail ++ [s.left.length] := by
  simp [trailPath]

mutual

theorem map_path_placesFrom (trail : List Step) :
    ∀ t, (placesFrom trail t).map (·.path) = t.paths.map (trailPath trail ++ ·)
  | .node l cs => by
    simp only [placesFrom, Tree.paths, List.map_cons, map_path_placesAmong l trail [] cs,
      path_mk, List.length_nil, List.append_nil]

theorem map_path_placesAmong (l : Label) (trail : List Step) (left : List Tree) :
    ∀ ts, (placesAmong l trail left ts).map (·.path) =
      (Tree.pathsAmong left.length ts).map (trailPath trail ++ ·)
  | [] => rfl
  | t :: ts => by
    simp only [placesAmong, Tree.pathsAmong, List.map_append, map_path_placesFrom _ t,
      map_path_placesAmong l trail (t :: left) ts, trailPath_cons, List.map_map,
      List.length_cons, Function.comp_def, List.append_assoc, List.singleton_append]

end

/-- The ways to the places of a tree are its paths. -/
theorem map_path_places (t : Tree) : (places t).map (·.path) = t.paths := by
  simp [places, map_path_placesFrom, trailPath]

theorem pathsAmong_head {ts : List Tree} {i : Nat} {p : List Nat}
    (h : p ∈ Tree.pathsAmong i ts) : ∃ j q, i ≤ j ∧ p = j :: q := by
  induction ts generalizing i with
  | nil => simp [Tree.pathsAmong] at h
  | cons t ts ih =>
    simp only [Tree.pathsAmong, List.mem_append, List.mem_map] at h
    rcases h with ⟨q, -, rfl⟩ | h
    · exact ⟨i, q, Nat.le_refl i, rfl⟩
    · obtain ⟨j, q, hj, rfl⟩ := ih h
      exact ⟨j, q, by omega, rfl⟩

mutual

theorem nodup_paths : ∀ t : Tree, t.paths.Nodup
  | .node l cs => by
    simp only [Tree.paths, List.nodup_cons]
    refine ⟨fun h => ?_, nodup_pathsAmong cs 0⟩
    obtain ⟨j, q, -, hq⟩ := pathsAmong_head h
    simp at hq

theorem nodup_pathsAmong : ∀ (ts : List Tree) (i : Nat), (Tree.pathsAmong i ts).Nodup
  | [], _ => by simp [Tree.pathsAmong]
  | t :: ts, i => by
    simp only [Tree.pathsAmong]
    refine ((nodup_paths t).map fun p q h => by simpa using h).append
      (nodup_pathsAmong ts (i + 1)) ?_
    intro p hp hq
    obtain ⟨q, -, rfl⟩ := List.mem_map.1 hp
    obtain ⟨j, r, hj, hr⟩ := pathsAmong_head hq
    simp only [List.cons.injEq] at hr
    omega

end

mutual

theorem mem_paths : ∀ (t : Tree) (p : List Nat), p ∈ t.paths ↔ (t.at? p).isSome
  | .node l cs, p => by
    cases p with
    | nil => simp [Tree.paths, Tree.at?]
    | cons i p =>
      simpa [Tree.paths, Tree.at?, Tree.children] using mem_pathsAmong cs 0 i p

theorem mem_pathsAmong : ∀ (ts : List Tree) (i j : Nat) (p : List Nat),
    (i + j) :: p ∈ Tree.pathsAmong i ts ↔ ((ts[j]?).bind fun c => c.at? p).isSome
  | [], _, _, _ => by simp [Tree.pathsAmong]
  | t :: ts, i, j, p => by
    simp only [Tree.pathsAmong, List.mem_append, List.mem_map, List.cons.injEq]
    cases j with
    | zero =>
      have hrest : i :: p ∉ Tree.pathsAmong (i + 1) ts := by
        intro h
        obtain ⟨j, q, hj, hq⟩ := pathsAmong_head h
        simp only [List.cons.injEq] at hq
        omega
      simp [hrest, mem_paths t p]
    | succ j =>
      have hfirst : ¬ ∃ a ∈ t.paths, i = i + (j + 1) ∧ a = p := by
        rintro ⟨_, _, h, _⟩
        omega
      simp only [hfirst, false_or, List.getElem?_cons_succ, ← mem_pathsAmong ts (i + 1) j p]
      rw [show i + (j + 1) = i + 1 + j by omega]

end

/-! ## Ways back -/

/-- The tree at the top of a trail. -/
def rebuildAll (t : Tree) : List Step → Tree
  | [] => t
  | s :: trail => rebuildAll (Cursor.rebuild s t) trail

mutual

theorem rebuildAll_placesFrom (trail : List Step) : ∀ (t : Tree), ∀ c ∈ placesFrom trail t,
    rebuildAll c.focus c.trail = rebuildAll t trail
  | .node l cs, c, hc => by
    simp only [placesFrom, List.mem_cons] at hc
    rcases hc with rfl | hc
    · rfl
    · simpa using rebuildAll_placesAmong l trail [] cs c hc

theorem rebuildAll_placesAmong (l : Label) (trail : List Step) (left : List Tree) :
    ∀ (ts : List Tree), ∀ c ∈ placesAmong l trail left ts,
      rebuildAll c.focus c.trail = rebuildAll (.node l (left.reverse ++ ts)) trail
  | [], c, hc => by simp [placesAmong] at hc
  | t :: ts, c, hc => by
    simp only [placesAmong, List.mem_append] at hc
    rcases hc with hc | hc
    · exact rebuildAll_placesFrom (⟨l, left, ts⟩ :: trail) t c hc
    · simpa using rebuildAll_placesAmong l trail (t :: left) ts c hc

end

/-- Going back up from a place of a tree gives the tree. -/
theorem rebuildAll_of_mem {t : Tree} {c : Cursor} (h : c ∈ places t) :
    rebuildAll c.focus c.trail = t :=
  rebuildAll_placesFrom [] t c h

theorem at?_append : ∀ (p q : List Nat) (t : Tree), t.at? (p ++ q) = (t.at? p).bind (·.at? q)
  | [], q, t => rfl
  | i :: p, q, t => by
    cases h : t.children[i]? with
    | none => simp [Tree.at?, h]
    | some c => simp [Tree.at?, h, at?_append p q c]

/-- The way down a trail leads to its lower end. -/
theorem at?_rebuildAll : ∀ (trail : List Step) (t : Tree),
    (rebuildAll t trail).at? (trailPath trail) = some t
  | [], _ => rfl
  | s :: trail, t => by
    simp [rebuildAll, trailPath_cons, at?_append, at?_rebuildAll trail, Cursor.rebuild, Tree.at?,
      Tree.children]

/-- **A place is where its path leads to.** -/
theorem at?_path {t : Tree} {c : Cursor} (h : c ∈ places t) : t.at? c.path = some c.focus := by
  conv_lhs => rw [← rebuildAll_of_mem h]
  exact at?_rebuildAll c.trail c.focus

/-- The kind of the node above the one that a path leads to. -/
def Tree.kindAbove? (t : Tree) (p : List Nat) : Option String :=
  if p = [] then none else (t.at? p.dropLast).map (·.kind)

/-- The kind above a place is the kind of the node that its path without the last step leads to. -/
theorem parentKind?_eq {t : Tree} {c : Cursor} (h : c ∈ places t) :
    c.parentKind? = t.kindAbove? c.path := by
  have ht := rebuildAll_of_mem h
  obtain ⟨u, trail⟩ := c
  cases trail with
  | nil => simp [Cursor.parentKind?, trailPath, Tree.kindAbove?]
  | cons s trail =>
    have habove : t.at? (trailPath trail) = some (Cursor.rebuild s u) := by
      rw [← ht]
      exact at?_rebuildAll trail _
    simp [Cursor.parentKind?, Tree.kindAbove?, trailPath_cons, habove, Cursor.rebuild, Tree.kind,
      Tree.label]

theorem nodup_map_path_places (t : Tree) : ((places t).map (·.path)).Nodup := by
  rw [map_path_places]
  exact nodup_paths t

/-- A node of a tree is the focus of a place. -/
theorem exists_place {t u : Tree} {p : List Nat} (h : t.at? p = some u) :
    ∃ c ∈ places t, c.path = p ∧ c.focus = u := by
  have hp : p ∈ (places t).map (·.path) := by
    rw [map_path_places, mem_paths, h]
    rfl
  obtain ⟨c, hc, rfl⟩ := List.mem_map.1 hp
  refine ⟨c, hc, rfl, ?_⟩
  simpa [at?_path hc] using h

end JavaNaming.Syntax
