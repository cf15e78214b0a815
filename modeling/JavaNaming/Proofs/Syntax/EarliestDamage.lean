import JavaNaming.Java.Source
import JavaNaming.Proofs.Text.Scan

/-!
# The earliest damage

A text with damage is refused with the location of one damaged node. The search for this node leaves out
subtrees that are marked as sound, and the location is found from its offset. Where the marks are exact
and the ranges of the tree are in order, no damaged node has an earlier location.

* `firstDamage?_eq_find?`: with exact marks, the search finds the first damaged node in pre-order.
* `Ordered.within`, `Ordered.pairwise_start`: in a tree whose ranges nest and are in order, a node lies
  within each node above it, and the starts of the nodes do not decrease in pre-order.
* `syntaxError_at_earliest_damage`: the location in the error is that of a damaged node, and no damaged
  node has an earlier one. The order of offsets is that of locations by `Locates.before`.
-/

namespace JavaNaming.Syntax

open Java (ParseError)

namespace Tree

/-! ## Nodes of a tree -/

/-- A property of trees that follows from the same property of the children holds of every tree. -/
@[elab_as_elim]
theorem induct {P : Tree → Prop} (node : ∀ l cs, (∀ c ∈ cs, P c) → P (.node l cs)) (t : Tree) :
    P t := by
  cases t with
  | node l cs =>
    refine node l cs fun c hc => ?_
    have : sizeOf c < sizeOf cs := List.sizeOf_lt_of_mem hc
    exact induct node c
termination_by t
decreasing_by simp only [Tree.node.sizeOf_spec]; omega

theorem mem_preorderAll {n : Tree} {ts : List Tree} :
    n ∈ preorderAll ts ↔ ∃ t ∈ ts, n ∈ t.preorder := by
  induction ts with
  | nil => simp [preorderAll]
  | cons t ts ih => simp [preorderAll, ih]

theorem mem_preorder_node {n : Tree} {l : Label} {cs : List Tree} :
    n ∈ (node l cs).preorder ↔ n = node l cs ∨ ∃ c ∈ cs, n ∈ c.preorder := by
  simp [preorder, mem_preorderAll]

theorem mem_preorder_self (t : Tree) : t ∈ t.preorder := by
  cases t
  simp [preorder]

theorem mem_preorder_of_child {l : Label} {cs : List Tree} {c n : Tree} (hc : c ∈ cs)
    (hn : n ∈ c.preorder) : n ∈ (node l cs).preorder :=
  mem_preorder_node.2 (.inr ⟨c, hc, hn⟩)

/-! ## Exact marks -/

/-- The marks of a tree are exact: a node is marked as damaged exactly if it, or a node below it, is an
error node or a missing token. -/
def ExactMarks (t : Tree) : Prop :=
  ∀ n ∈ t.preorder, n.label.damaged = true ↔ ∃ d ∈ n.preorder, d.isDamage = true

instance (t : Tree) : Decidable t.ExactMarks :=
  inferInstanceAs (Decidable (∀ n ∈ t.preorder, _))

theorem ExactMarks.child {l : Label} {cs : List Tree} {c : Tree} (h : (node l cs).ExactMarks)
    (hc : c ∈ cs) : c.ExactMarks :=
  fun n hn => h n (mem_preorder_of_child hc hn)

theorem firstDamageAll?_eq_find? {ts : List Tree}
    (h : ∀ t ∈ ts, t.firstDamage? = t.preorder.find? isDamage) :
    firstDamageAll? ts = (preorderAll ts).find? isDamage := by
  induction ts with
  | nil => rfl
  | cons t ts ih =>
    rw [firstDamageAll?, preorderAll, List.find?_append, h t List.mem_cons_self,
      ih fun u hu => h u (List.mem_cons_of_mem t hu)]

/-- **The search for damage** finds the first damaged node in pre-order. What it leaves out has no
damage. -/
theorem firstDamage?_eq_find? (t : Tree) (h : t.ExactMarks) :
    t.firstDamage? = t.preorder.find? isDamage := by
  induction t using induct with
  | node l cs ih =>
    have hchildren : firstDamageAll? cs = (preorderAll cs).find? isDamage :=
      firstDamageAll?_eq_find? fun c hc => ih c hc (h.child hc)
    have hself : (node l cs).isDamage = (l.mark != .sound) := rfl
    rw [firstDamage?, preorder, List.find?_cons, hself]
    cases hmark : l.mark != .sound with
    | true => rfl
    | false =>
      cases hdamaged : l.damaged with
      | true => simpa using hchildren
      | false =>
        have hsound : ∀ n ∈ preorderAll cs, ¬ n.isDamage = true := by
          intro n hn hdamage
          have hmarked := (h _ (mem_preorder_self _)).2
            ⟨n, mem_preorder_node.2 (.inr (mem_preorderAll.1 hn)), hdamage⟩
          exact Bool.false_ne_true (hdamaged.symm.trans hmarked)
        simp [List.find?_eq_none.2 hsound]

/-! ## Ranges in order -/

/-- The ranges of a tree nest and are in order: each child lies within its parent, and starts at or after
the end of the child before it. -/
structure Ordered (t : Tree) : Prop where
  nested : ∀ n ∈ t.preorder, ∀ c ∈ n.children,
    n.range.start ≤ c.range.start ∧ c.range.stop ≤ n.range.stop
  chained : ∀ n ∈ t.preorder, n.children.IsChain fun a b => a.range.stop ≤ b.range.start

theorem ordered_iff {t : Tree} : t.Ordered ↔
    (∀ n ∈ t.preorder, ∀ c ∈ n.children,
      n.range.start ≤ c.range.start ∧ c.range.stop ≤ n.range.stop) ∧
    ∀ n ∈ t.preorder, n.children.IsChain fun a b => a.range.stop ≤ b.range.start :=
  ⟨fun h => ⟨h.nested, h.chained⟩, fun h => ⟨h.1, h.2⟩⟩

instance (t : Tree) : Decidable t.Ordered := decidable_of_iff _ ordered_iff.symm

namespace Ordered

variable {l : Label} {cs : List Tree} {t c n : Tree}

theorem child (h : (node l cs).Ordered) (hc : c ∈ cs) : c.Ordered where
  nested n hn := h.nested n (mem_preorder_of_child hc hn)
  chained n hn := h.chained n (mem_preorder_of_child hc hn)

/-- A node of a tree lies within the range of the tree. -/
theorem within (h : t.Ordered) (hn : n ∈ t.preorder) :
    t.range.start ≤ n.range.start ∧ n.range.stop ≤ t.range.stop := by
  induction t using induct with
  | node l cs ih =>
    rcases mem_preorder_node.1 hn with rfl | ⟨c, hc, hn⟩
    · exact ⟨Nat.le_refl _, Nat.le_refl _⟩
    · obtain ⟨hstart, hstop⟩ := h.nested _ (mem_preorder_self _) c hc
      obtain ⟨hstart', hstop'⟩ := ih c hc (h.child hc) hn
      exact ⟨hstart.trans hstart', hstop'.trans hstop⟩

/-- Each child ends before all later ones start, not only before the next one. -/
theorem pairwise_children (h : (node l cs).Ordered) :
    cs.Pairwise fun a b => a.range.stop ≤ b.range.start := by
  have : IsTrans Tree fun a b => a.range.stop ≤ b.range.start :=
    ⟨fun a b c hab hbc => (hab.trans b.range.start_le_stop).trans hbc⟩
  exact (h.chained _ (mem_preorder_self _)).pairwise

theorem pairwise_start_all {ts : List Tree} (hordered : ∀ t ∈ ts, t.Ordered)
    (hapart : ts.Pairwise fun a b => a.range.stop ≤ b.range.start)
    (hstarts : ∀ t ∈ ts, t.preorder.Pairwise fun a b => a.range.start ≤ b.range.start) :
    (preorderAll ts).Pairwise fun a b => a.range.start ≤ b.range.start := by
  induction ts with
  | nil => exact .nil
  | cons t ts ih =>
    rw [List.pairwise_cons] at hapart
    rw [preorderAll, List.pairwise_append]
    refine ⟨hstarts t List.mem_cons_self, ?_, ?_⟩
    · exact ih (fun u hu => hordered u (List.mem_cons_of_mem t hu)) hapart.2
        fun u hu => hstarts u (List.mem_cons_of_mem t hu)
    · intro a ha b hb
      obtain ⟨u, hu, hb⟩ := mem_preorderAll.1 hb
      have hleft := ((hordered t List.mem_cons_self).within ha).2
      have hright := ((hordered u (List.mem_cons_of_mem t hu)).within hb).1
      calc a.range.start
        _ ≤ a.range.stop := a.range.start_le_stop
        _ ≤ t.range.stop := hleft
        _ ≤ u.range.start := hapart.1 u hu
        _ ≤ b.range.start := hright

/-- **The starts of the nodes** do not decrease in pre-order. -/
theorem pairwise_start (h : t.Ordered) :
    t.preorder.Pairwise fun a b => a.range.start ≤ b.range.start := by
  induction t using induct with
  | node l cs ih =>
    rw [preorder, List.pairwise_cons]
    refine ⟨fun n hn => ?_, ?_⟩
    · exact (h.within (mem_preorder_node.2 (.inr (mem_preorderAll.1 hn)))).1
    · exact pairwise_start_all (fun c hc => h.child hc) h.pairwise_children
        fun c hc => ih c hc (h.child hc)

end Ordered

/-! ## The damage that is reported -/

/-- The ranges of all nodes lie on boundaries between the characters of a text. -/
def OnBoundaries (source : List Char) (t : Tree) : Prop :=
  ∀ n ∈ t.preorder,
    Text.IsBoundary source n.range.start ∧ Text.IsBoundary source n.range.stop

instance (source : List Char) (t : Tree) : Decidable (t.OnBoundaries source) :=
  inferInstanceAs (Decidable (∀ n ∈ t.preorder, _))

/-- The location is that of a damaged node, and no damaged node has an earlier one. -/
structure EarliestDamage (source : List Char) (t : Tree) (l : Text.Location) : Prop where
  attained : ∃ d ∈ t.preorder, d.isDamage = true ∧ Text.locate? source d.range.start = some l
  earliest : ∀ n ∈ t.preorder, n.isDamage = true →
    ∃ m, Text.locate? source n.range.start = some m ∧ ¬ m.Before l

/-- No damaged node starts before the one that the search finds. -/
theorem start_le_of_firstDamage? {t d n : Tree} (hordered : t.Ordered) (hmarks : t.ExactMarks)
    (hd : t.firstDamage? = some d) (hn : n ∈ t.preorder) (hdamage : n.isDamage = true) :
    d.range.start ≤ n.range.start := by
  rw [firstDamage?_eq_find? t hmarks, List.find?_eq_some_iff_append] at hd
  obtain ⟨-, before, after, htree, hbefore⟩ := hd
  have hstarts := hordered.pairwise_start
  rw [htree] at hn hstarts
  rcases List.mem_append.1 hn with hn | hn
  · exact absurd hdamage (by simpa using hbefore n hn)
  rcases List.mem_cons.1 hn with rfl | hn
  · exact Nat.le_refl _
  · exact (List.pairwise_cons.1 (List.pairwise_append.1 hstarts).2.1).1 n hn

theorem locate?_of_damageError {source : List Char} {d : Tree} {l : Text.Location} {r : Reason}
    (h : Java.damageError source d = .syntaxError l r) :
    Text.locate? source d.range.start = some l := by
  unfold Java.damageError at h
  split at h
  · rename_i l' r' hl hr
    cases h
    exact hl
  · cases h

theorem firstDamage?_of_undamaged {source : List Char} {t : Tree} {e : ParseError}
    (h : Java.undamaged source t = .error e) :
    ∃ d, t.firstDamage? = some d ∧ Java.damageError source d = e := by
  unfold Java.undamaged at h
  split at h
  · rename_i d hd
    cases h
    exact ⟨d, hd, rfl⟩
  · cases h

theorem earliestDamage_of_undamaged {source : List Char} {t : Tree} (hordered : t.Ordered)
    (hmarks : t.ExactMarks) (hranges : t.OnBoundaries source) {l : Text.Location} {r : Reason}
    (h : Java.undamaged source t = .error (.syntaxError l r)) : t.EarliestDamage source l := by
  obtain ⟨d, hd, herror⟩ := firstDamage?_of_undamaged h
  have hl := locate?_of_damageError herror
  have hfind : t.preorder.find? isDamage = some d := by rw [← firstDamage?_eq_find? t hmarks, hd]
  refine ⟨⟨d, List.mem_of_find?_eq_some hfind, List.find?_some hfind, hl⟩, fun n hn hdamage => ?_⟩
  obtain ⟨m, hm⟩ := Text.exists_locate? (hranges n hn).1
  refine ⟨m, hm, ?_⟩
  have hlocates := Text.locates_of_locate? hl
  have hlocates' := Text.locates_of_locate? hm
  rcases Nat.lt_or_eq_of_le (start_le_of_firstDamage? hordered hmarks hd hn hdamage) with hlt | heq
  · exact (hlocates.before hlocates' hlt).asymm
  · rw [← heq] at hlocates'
    rw [hlocates.unique hlocates']
    exact fun hbefore => hbefore.asymm hbefore

theorem parse_eq_undamaged {source : List Char} {t : Tree}
    (h : Java.recoveredTree? source = some t) : Java.parse source = Java.undamaged source t := by
  unfold Java.parse
  rw [h]

/-- **A syntax error leads to the earliest damage.** For every text, and every tree over it with exact
marks whose ranges are in order and lie on boundaries between characters, the location in the error is
that of a damaged node, and no damaged node has an earlier one. This holds in particular for the tree that
the parser makes of the text. -/
theorem syntaxError_at_earliest_damage (source : List Char) (t : Tree) (hordered : t.Ordered)
    (hmarks : t.ExactMarks) (hranges : t.OnBoundaries source) :
    (∀ l r, Java.undamaged source t = .error (.syntaxError l r) → t.EarliestDamage source l) ∧
      (Java.recoveredTree? source = some t →
        ∀ l r, Java.parse source = .error (.syntaxError l r) → t.EarliestDamage source l) := by
  refine ⟨fun l r h => earliestDamage_of_undamaged hordered hmarks hranges h, fun ht l r h => ?_⟩
  rw [parse_eq_undamaged ht] at h
  exact earliestDamage_of_undamaged hordered hmarks hranges h

/-- Two declarations without their semicolons, after a comment and two ways to end a line. -/
def twoMissingText : List Char := "/*é*/\r\nint x\rint y".toList

/-- A declaration that starts at an offset, with a missing semicolon at its end. -/
def unfinishedDeclaration (start : Nat) : Tree :=
  let label (kind : String) (i j : Nat) (mark : Mark) (damaged : Bool) : Label :=
    ⟨kind, true, .upTo (start + i) (start + j), none, mark, damaged⟩
  .node (label "local_variable_declaration" 0 5 .sound true)
    [.node (label "integral_type" 0 3 .sound false) [],
      .node (label "variable_declarator" 4 5 .sound false)
        [.node (label "identifier" 4 5 .sound false) []],
      .node (label ";" 5 5 .missing true) []]

/-- The comment and the two declarations. -/
def twoMissingTree : Tree :=
  .node ⟨"program", true, .upTo 0 19, none, .sound, true⟩
    [.node ⟨"block_comment", true, .upTo 0 6, none, .sound, false⟩ [],
      unfinishedDeclaration 8, unfinishedDeclaration 14]

/-- A semicolon is missing at the end of the second line and one at the end of the third. The error names
the first of these places, which is the earliest damage. -/
theorem syntaxError_at_earliest_damage_twoMissing :
    Java.undamaged twoMissingText twoMissingTree =
        .error (.syntaxError ⟨2, 6⟩ (.missing ";")) ∧
      ((twoMissingTree.preorder.filter isDamage).map fun n =>
        Text.locate? twoMissingText n.range.start) = [some ⟨2, 6⟩, some ⟨3, 6⟩] ∧
      twoMissingTree.EarliestDamage twoMissingText ⟨2, 6⟩ := by
  have herror : Java.undamaged twoMissingText twoMissingTree =
      .error (.syntaxError ⟨2, 6⟩ (.missing ";")) := by rfl
  refine ⟨herror, by decide, ?_⟩
  exact (syntaxError_at_earliest_damage twoMissingText twoMissingTree (by decide) (by decide)
    (by decide)).1 _ _ herror

end Tree

end JavaNaming.Syntax
