import JavaNaming.Proofs.Syntax.Places

/-!
# Walks from inside a tree

A walk may start at any node of a tree. It is asked for one node after the other, and may be asked further
once it has ended. Its answers are compared with the pre-order of the whole tree, in which a node is known
by its path.

* `answer_eq`: the answers are the places still to come, and nothing after them. One request takes the
  first place away (`pending_eq`).
* `filter_paths`: the paths of a tree that go through a node are the paths of the node's subtree, put
  behind the path of the node, in the same order.
* `walk_visits_subtree`: a walk visits the nodes at and below the one it starts at, each once and in
  pre-order, and no others, and then stays at its end.
-/

namespace JavaNaming.Syntax

/-! ## Answers -/

/-- The answer of a walk to request number `n`, counted from zero. -/
def Walker.answer : Nat → Walker → Option Cursor
  | 0, w => w.step.1
  | n + 1, w => answer n w.step.2

/-- **The answers of a walk** are the places still to come, and nothing after the last of them. -/
theorem answer_eq (n : Nat) (w : Walker) : w.answer n = (pending? w.next?)[n]? := by
  induction n generalizing w with
  | zero =>
    obtain ⟨next?⟩ := w
    cases next? with
    | none => rfl
    | some c => simp [Walker.answer, Walker.step, pending?, pending_eq c]
  | succ n ih =>
    obtain ⟨next?⟩ := w
    rw [Walker.answer, ih]
    cases next? with
    | none => simp [Walker.step, pending?]
    | some c => simp [Walker.step, pending?, pending_eq c]

/-- A walk that starts at the root of a tree answers with the places of the tree. -/
theorem answer_ofTree (u : Tree) (n : Nat) : (Walker.ofTree u).answer n = (places u)[n]? := by
  rw [answer_eq, pending_ofTree]

/-! ## Paths through a node -/

/-- No path into later children goes through an earlier one. -/
theorem filter_pathsAmong_of_lt (ts : List Tree) {i j : Nat} (p : List Nat) (h : i < j) :
    (Tree.pathsAmong j ts).filter (i :: p).isPrefixOf = [] := by
  rw [List.filter_eq_nil_iff]
  intro q hq
  obtain ⟨k, r, hk, rfl⟩ := pathsAmong_head hq
  have hne : ¬ i = k := by omega
  simp [List.isPrefixOf, hne]

/-- The paths into children that go through one of them. -/
theorem filter_pathsAmong {c : Tree} (p : List Nat) : ∀ {ts : List Tree} {j : Nat} (i : Nat),
    ts[j]? = some c →
      (Tree.pathsAmong i ts).filter ((i + j) :: p).isPrefixOf =
        (c.paths.filter p.isPrefixOf).map ((i + j) :: ·)
  | [], j, _, h => by simp at h
  | t :: ts, 0, i, h => by
    obtain rfl : t = c := by simpa using h
    have hlater := filter_pathsAmong_of_lt ts p (Nat.lt_succ_self i)
    simp only [Tree.pathsAmong, Nat.add_zero, List.filter_append, List.filter_map, hlater,
      List.append_nil]
    congr 1
    exact List.filter_congr fun q _ => List.isPrefixOf_cons_cons_self
  | t :: ts, j + 1, i, h => by
    have hfirst : (t.paths.map (i :: ·)).filter ((i + (j + 1)) :: p).isPrefixOf = [] := by
      rw [List.filter_eq_nil_iff]
      intro q hq
      obtain ⟨r, -, rfl⟩ := List.mem_map.1 hq
      simp [List.isPrefixOf]
    have hrest := filter_pathsAmong p (i + 1) (show ts[j]? = some c by simpa using h)
    rw [show i + 1 + j = i + (j + 1) by omega] at hrest
    rw [Tree.pathsAmong, List.filter_append, hfirst, List.nil_append, hrest]

/-- **The paths through a node**, in the order of the whole tree, lead into its subtree. -/
theorem filter_paths {u : Tree} : ∀ {p : List Nat} {t : Tree}, t.at? p = some u →
    t.paths.filter p.isPrefixOf = u.paths.map (p ++ ·)
  | [], t, h => by
    obtain rfl : t = u := by simpa [Tree.at?] using h
    have hall : ∀ q ∈ t.paths, List.isPrefixOf [] q = true := fun q _ => rfl
    simp [List.filter_eq_self.2 hall]
  | i :: p, .node l cs, h => by
    obtain ⟨c, hc, hu⟩ := Option.bind_eq_some_iff.1 h
    have hchild := filter_pathsAmong p 0 (show cs[i]? = some c from hc)
    rw [Nat.zero_add] at hchild
    rw [Tree.paths, List.filter_cons_of_neg (by simp), hchild, filter_paths hu, List.map_map]
    rfl

theorem mem_filter_paths {t : Tree} {p q : List Nat} :
    q ∈ t.paths.filter p.isPrefixOf ↔ (t.at? q).isSome = true ∧ p <+: q := by
  rw [List.mem_filter, mem_paths, List.isPrefixOf_iff_prefix]

/-! ## The whole walk -/

section

variable {t u : Tree} {p : List Nat} (hu : t.at? p = some u)
include hu

/-- The answers lead, in order, along the paths of the whole tree that go through the start. -/
theorem map_path_answer (n : Nat) :
    ((Walker.ofTree u).answer n).map (p ++ ·.path) = (t.paths.filter p.isPrefixOf)[n]? := by
  rw [answer_ofTree, filter_paths hu, ← map_path_places, List.map_map, List.getElem?_map]
  rfl

/-- An answer is the node of the whole tree at its path. -/
theorem at?_of_answer {n : Nat} {c : Cursor} (hc : (Walker.ofTree u).answer n = some c) :
    t.at? (p ++ c.path) = some c.focus := by
  rw [answer_ofTree] at hc
  rw [at?_append, hu, Option.bind_some]
  exact at?_path (List.mem_of_getElem? hc)

/-- Every node at or below the start is the answer to exactly one request. -/
theorem existsUnique_answer {q : List Nat} (hq : (t.at? q).isSome = true) (hpq : p <+: q) :
    ∃! n, ((Walker.ofTree u).answer n).map (p ++ ·.path) = some q := by
  obtain ⟨n, hn, hget⟩ := List.getElem_of_mem (mem_filter_paths.2 ⟨hq, hpq⟩)
  refine ⟨n, ?_, ?_⟩
  · dsimp only
    rw [map_path_answer hu, List.getElem?_eq_getElem hn, hget]
  · intro m hm
    rw [map_path_answer hu] at hm
    obtain ⟨hm, hget'⟩ := List.getElem?_eq_some_iff.1 hm
    have hnodup := (nodup_paths t).filter p.isPrefixOf
    exact hnodup.getElem_inj_iff.1 (hget'.trans hget.symm)

end

/-- **A walk visits a subtree.** For every tree and every node of it, taken as the start, the answers of a
walk are the nodes of the subtree in pre-order, and nothing from then on. As nodes of the whole tree they
are those whose path goes through the start, in the order of the whole tree, and each stands at the path
that the walk gives for it. Every node at or below the start is the answer to exactly one request. -/
theorem walk_visits_subtree (t u : Tree) (p : List Nat) (hu : t.at? p = some u) :
    (∀ n, ((Walker.ofTree u).answer n).map (·.focus) = u.preorder[n]?) ∧
      (∀ n, (Walker.ofTree u).answer n = none ↔ u.size ≤ n) ∧
      (∀ n, ((Walker.ofTree u).answer n).map (p ++ ·.path) = (t.paths.filter p.isPrefixOf)[n]?) ∧
      (∀ n c, (Walker.ofTree u).answer n = some c → t.at? (p ++ c.path) = some c.focus) ∧
      ∀ q, (t.at? q).isSome = true → p <+: q →
        ∃! n, ((Walker.ofTree u).answer n).map (p ++ ·.path) = some q := by
  refine ⟨?_, ?_, map_path_answer hu, fun n c => at?_of_answer hu, fun q => existsUnique_answer hu⟩
  · intro n
    rw [answer_ofTree, ← map_focus_places, List.getElem?_map]
  · intro n
    rw [answer_ofTree, List.getElem?_eq_none_iff, places, length_placesFrom]

/-- A class with its name and an empty body, from an offset on. -/
def emptyClass (start : Nat) : Tree :=
  let label (kind : String) (named : Bool) (i j : Nat) : Label :=
    ⟨kind, named, .upTo (start + i) (start + j), none, .sound, false⟩
  .node (label "class_declaration" true 0 9)
    [.node (label "class" false 0 5) [], .node (label "identifier" true 6 7) [],
      .node (label "class_body" true 7 9)
        [.node (label "\x7b" false 7 8) [], .node (label "\x7d" false 8 9) []]]

/-- Two classes. -/
def twoClasses : Tree :=
  .node ⟨"program", true, .upTo 0 18, none, .sound, false⟩ [emptyClass 0, emptyClass 9]

/-- A walk from the first class visits its six nodes. It goes neither to the second class nor to the node
above them, and further requests are in vain. -/
theorem walk_visits_subtree_firstClass :
    twoClasses.at? [0] = some (emptyClass 0) ∧
      (List.range 8).map (fun n => ((Walker.ofTree (emptyClass 0)).answer n).map ([0] ++ ·.path)) =
        [some [0], some [0, 0], some [0, 1], some [0, 2], some [0, 2, 0], some [0, 2, 1],
          none, none] ∧
      ∀ n, (Walker.ofTree (emptyClass 0)).answer n = none ↔ 6 ≤ n := by
  obtain ⟨-, hend, hpaths, -⟩ := walk_visits_subtree twoClasses (emptyClass 0) [0] rfl
  refine ⟨rfl, ?_, hend⟩
  simp only [hpaths]
  decide

end JavaNaming.Syntax
