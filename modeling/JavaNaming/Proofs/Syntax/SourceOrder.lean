import JavaNaming.Proofs.Syntax.EarliestDamage
import JavaNaming.Proofs.Syntax.SubtreeWalk

/-!
# Walks in the order of the text

A walk goes through a tree, and the ranges of its nodes go through the text. Where the ranges nest and are
in order, the two orders agree.

* `pairwise_paths`: the paths of a tree in pre-order increase, where a path comes before its extensions
  and paths that part are compared at the first index in which they differ.
* `Ordered.stop_le_start`: of two paths that part, the first leads to a node that ends before the node of
  the other one starts.
* `walk_in_source_order`: of two nodes of a walk, the later one starts no earlier. It is a part of the
  earlier one or comes after it.
-/

namespace JavaNaming.Syntax

/-! ## The order of paths -/

mutual

/-- **The paths of a tree** in pre-order increase. -/
theorem pairwise_paths : ∀ t : Tree, t.paths.Pairwise (· < ·)
  | .node l cs => by
    rw [Tree.paths, List.pairwise_cons]
    refine ⟨fun q hq => ?_, pairwise_pathsAmong cs 0⟩
    obtain ⟨j, r, -, rfl⟩ := pathsAmong_head hq
    exact List.nil_lt_cons j r

theorem pairwise_pathsAmong : ∀ (ts : List Tree) (i : Nat),
    (Tree.pathsAmong i ts).Pairwise (· < ·)
  | [], _ => by simp [Tree.pathsAmong]
  | t :: ts, i => by
    rw [Tree.pathsAmong, List.pairwise_append, List.pairwise_map]
    refine ⟨?_, pairwise_pathsAmong ts (i + 1), ?_⟩
    · exact (pairwise_paths t).imp fun hlt => List.cons_lt_cons_iff.2 (.inr ⟨rfl, hlt⟩)
    · intro p hp q hq
      obtain ⟨p, -, rfl⟩ := List.mem_map.1 hp
      obtain ⟨j, q, hj, rfl⟩ := pathsAmong_head hq
      exact List.cons_lt_cons_iff.2 (.inl hj)

end

/-- The places of a walk come in the order of their paths. -/
theorem path_lt_path {t : Tree} {i j : Nat} (hij : i < j) {a b : Cursor}
    (ha : (Walker.ofTree t).answer i = some a) (hb : (Walker.ofTree t).answer j = some b) :
    a.path < b.path := by
  rw [answer_ofTree] at ha hb
  have hpaths := pairwise_paths t
  rw [← map_path_places, List.pairwise_map] at hpaths
  obtain ⟨hi, rfl⟩ := List.getElem?_eq_some_iff.1 ha
  obtain ⟨hj, rfl⟩ := List.getElem?_eq_some_iff.1 hb
  exact List.pairwise_iff_getElem.1 hpaths i j hi hj hij

/-! ## Ranges along paths -/

namespace Tree

theorem child_of_at?_cons {t u : Tree} {i : Nat} {p : List Nat} (h : t.at? (i :: p) = some u) :
    ∃ c, t.children[i]? = some c ∧ c.at? p = some u :=
  Option.bind_eq_some_iff.1 h

namespace Ordered

variable {t u v : Tree}

/-- The tree below a path is in order, and lies within the range of the whole tree. -/
theorem of_at? {p : List Nat} (h : t.Ordered) (hu : t.at? p = some u) :
    u.Ordered ∧ t.range.start ≤ u.range.start ∧ u.range.stop ≤ t.range.stop := by
  induction p generalizing t with
  | nil =>
    obtain rfl : t = u := Option.some.inj hu
    exact ⟨h, Nat.le_refl _, Nat.le_refl _⟩
  | cons i p ih =>
    obtain ⟨c, hc, hcu⟩ := child_of_at?_cons hu
    cases t with
    | node l cs =>
      have hmem : c ∈ cs := List.mem_of_getElem? hc
      obtain ⟨hordered, hstart, hstop⟩ := ih (h.child hmem) hcu
      obtain ⟨hstart', hstop'⟩ := h.nested _ (mem_preorder_self _) c hmem
      exact ⟨hordered, hstart'.trans hstart, hstop.trans hstop'⟩

/-- **Paths that part** lead to nodes of which the first ends before the other starts. -/
theorem stop_le_start {p q : List Nat} (h : t.Ordered) (hlt : p < q) (hpart : ¬ p <+: q)
    (hu : t.at? p = some u) (hv : t.at? q = some v) : u.range.stop ≤ v.range.start := by
  induction p generalizing t q with
  | nil => exact absurd List.nil_prefix hpart
  | cons i p ih =>
    cases q with
    | nil => exact absurd hlt (List.not_lt_nil _)
    | cons j q =>
      obtain ⟨c, hc, hcu⟩ := child_of_at?_cons hu
      obtain ⟨d, hd, hdv⟩ := child_of_at?_cons hv
      cases t with
      | node l cs =>
        have hcs : c ∈ cs := List.mem_of_getElem? hc
        have hds : d ∈ cs := List.mem_of_getElem? hd
        rcases List.cons_lt_cons_iff.1 hlt with hij | ⟨rfl, hpq⟩
        · -- The paths part here, in two children of which the first ends before the other starts.
          obtain ⟨hi, rfl⟩ := List.getElem?_eq_some_iff.1 hc
          obtain ⟨hj, rfl⟩ := List.getElem?_eq_some_iff.1 hd
          have hapart := List.pairwise_iff_getElem.1 h.pairwise_children i j hi hj hij
          have hleft := ((h.child hcs).of_at? hcu).2.2
          have hright := ((h.child hds).of_at? hdv).2.1
          exact (hleft.trans hapart).trans hright
        · obtain rfl : c = d := Option.some.inj (hc.symm.trans hd)
          exact ih (h.child hcs) hpq (fun hp => hpart (List.cons_prefix_cons.2 ⟨rfl, hp⟩)) hcu hdv

end Ordered

end Tree

/-! ## The walk -/

/-- **A walk goes in the order of the text.** In a tree whose ranges nest and are in order, let one answer
of a walk come before another. The later node starts no earlier. If it stands in the subtree of the earlier
one, its range is inside the range of that one, and otherwise it starts at or after the end of that one. -/
theorem walk_in_source_order (t : Tree) (h : t.Ordered) (i j : Nat) (hij : i < j) (a b : Cursor)
    (ha : (Walker.ofTree t).answer i = some a) (hb : (Walker.ofTree t).answer j = some b) :
    a.focus.range.start ≤ b.focus.range.start ∧
      ((∃ q, b.path = a.path ++ q ∧ a.focus.at? q = some b.focus ∧
          a.focus.range.start ≤ b.focus.range.start ∧
          b.focus.range.stop ≤ a.focus.range.stop) ∨
        (¬ a.path <+: b.path ∧ a.focus.range.stop ≤ b.focus.range.start)) := by
  have hlt := path_lt_path hij ha hb
  have ha := at?_of_answer (p := []) (t := t) rfl ha
  have hb := at?_of_answer (p := []) (t := t) rfl hb
  rw [List.nil_append] at ha hb
  by_cases hbelow : a.path <+: b.path
  · obtain ⟨q, hq⟩ := hbelow
    have hfocus : a.focus.at? q = some b.focus := by
      rwa [← hq, at?_append, ha, Option.bind_some] at hb
    obtain ⟨-, hstart, hstop⟩ := (h.of_at? ha).1.of_at? hfocus
    exact ⟨hstart, .inl ⟨q, hq.symm, hfocus, hstart, hstop⟩⟩
  · have hstop := h.stop_le_start hlt hbelow ha hb
    exact ⟨a.focus.range.start_le_stop.trans hstop, .inr ⟨hbelow, hstop⟩⟩

/-- A tree with empty ranges at the start and at the end of a node, and between it and the next one. -/
def emptyRanges : Tree :=
  let label (i j : Nat) : Label := ⟨"name", true, .upTo i j, none, .sound, false⟩
  .node (label 0 4)
    [.node (label 0 2) [.node (label 0 0) [], .node (label 0 2) [], .node (label 2 2) []],
      .node (label 2 2) [], .node (label 2 4) []]

/-- The starts do not decrease along the walk. The empty range at the end of the first child comes before
the second child, which starts where the first one ends. -/
theorem walk_in_source_order_emptyRanges :
    emptyRanges.Ordered ∧
      (List.range 7).map (fun i => ((Walker.ofTree emptyRanges).answer i).map fun c =>
        (c.path, c.focus.range.start, c.focus.range.stop)) =
        [([], 0, 4), ([0], 0, 2), ([0, 0], 0, 0), ([0, 1], 0, 2), ([0, 2], 2, 2), ([1], 2, 2),
          ([2], 2, 4)].map some ∧
      ∀ i j a b, i < j → (Walker.ofTree emptyRanges).answer i = some a →
        (Walker.ofTree emptyRanges).answer j = some b →
          a.focus.range.start ≤ b.focus.range.start := by
  have hordered : emptyRanges.Ordered := by decide
  refine ⟨hordered, by decide, fun i j a b hij ha hb => ?_⟩
  exact (walk_in_source_order emptyRanges hordered i j hij a b ha hb).1

end JavaNaming.Syntax
