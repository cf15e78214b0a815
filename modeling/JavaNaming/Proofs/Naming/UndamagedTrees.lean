import JavaNaming.Proofs.Naming.SessionRun
import JavaNaming.Proofs.Syntax.EarliestDamage

/-!
# Only undamaged trees are checked

The search for damage does not look below nodes that are marked as sound. Where the marks are exact it
finds what a search of all nodes finds, and so a text is read exactly if a walk of its tree meets no damage.

* `undamaged_iff_walk`, `undamaged_iff_preorder`: a walk meets the nodes of the tree at every depth.
* `firstDamage?_eq_none_iff`: the search finds nothing exactly if the tree is undamaged.
* `parse_eq_ok_iff`: a text is read exactly if its tree is undamaged.
* `checkSource_cases`, `undamaged_of_reading`: a single check and a session hand only such trees to the
  checker. For sessions this follows from the invariant of their runs (`Session.upToDate_run`).
-/

namespace JavaNaming.Syntax.Tree

/-- No node of the tree is an error node or a missing token, at whatever depth. -/
def Undamaged (t : Tree) : Prop := ∀ p n, t.at? p = some n → n.isDamage = false

theorem undamaged_iff_walk (t : Tree) :
    t.Undamaged ↔ ∀ c ∈ walk t, c.focus.isDamage = false := by
  rw [walk_eq_places]
  constructor
  · intro h c hc
    exact h c.path c.focus (at?_path hc)
  · intro h p n hn
    obtain ⟨c, hc, -, rfl⟩ := exists_place hn
    exact h c hc

theorem undamaged_iff_preorder (t : Tree) :
    t.Undamaged ↔ ∀ n ∈ t.preorder, n.isDamage = false := by
  rw [undamaged_iff_walk, walk_eq_places, ← map_focus_places, List.forall_mem_map]

/-- **Nothing is found** exactly in an undamaged tree. -/
theorem firstDamage?_eq_none_iff {t : Tree} (hmarks : t.ExactMarks) :
    t.firstDamage? = none ↔ t.Undamaged := by
  rw [firstDamage?_eq_find? t hmarks, List.find?_eq_none, undamaged_iff_preorder]
  simp only [Bool.not_eq_true]

end JavaNaming.Syntax.Tree

namespace JavaNaming.Naming

open Syntax (Tree walk)
open Session (smallClass)

/-! ## Reading -/

/-- The tree of a text, damaged or not, has exact marks. -/
def MarksExactly (source : List Char) : Prop :=
  ∀ t, Java.recoveredTree? source = some t → t.ExactMarks

instance (source : List Char) : Decidable (MarksExactly source) :=
  decidable_of_iff ((Java.recoveredTree? source).all fun t => decide t.ExactMarks) <| by
    simp [MarksExactly, Option.all_eq_true]

theorem undamaged_eq_ok_iff {source : List Char} {t u : Tree} :
    Java.undamaged source t = .ok u ↔ t = u ∧ t.firstDamage? = none := by
  unfold Java.undamaged
  split
  · rename_i d hd
    simp [hd]
  · rename_i hnone
    simp [hnone]

/-- **A text is read** exactly if its tree is undamaged. -/
theorem parse_eq_ok_iff {source : List Char} (hmarks : MarksExactly source) {t : Tree} :
    Java.parse source = .ok t ↔ Java.recoveredTree? source = some t ∧ t.Undamaged := by
  cases hrecovered : Java.recoveredTree? source with
  | none =>
    have herror : Java.parse source = .error .aborted := by
      unfold Java.parse
      rw [hrecovered]
    simp [herror]
  | some u =>
    rw [Tree.parse_eq_undamaged hrecovered, undamaged_eq_ok_iff, Option.some_inj]
    constructor
    · rintro ⟨rfl, hnone⟩
      exact ⟨rfl, (Tree.firstDamage?_eq_none_iff (hmarks u hrecovered)).1 hnone⟩
    · rintro ⟨rfl, hsound⟩
      exact ⟨rfl, (Tree.firstDamage?_eq_none_iff (hmarks u hrecovered)).2 hsound⟩

theorem exists_parse_iff {source : List Char} (hmarks : MarksExactly source) :
    (∃ t, Java.parse source = .ok t) ↔
      ∃ t, Java.recoveredTree? source = some t ∧ ∀ c ∈ walk t, c.focus.isDamage = false := by
  simp only [parse_eq_ok_iff hmarks, Tree.undamaged_iff_walk]

/-! ## Checking -/

/-- The answer of a check by the first violation, if there is one. -/
def verdictOf (v? : Option Violation) : Except CheckError Unit :=
  v?.elim (.ok ()) fun v => .error (.style v)

/-- **A single check** refuses the text, or checks an undamaged tree. -/
theorem checkSource_cases (c : Checker) {source : List Char} (hmarks : MarksExactly source) :
    (∃ e, Java.parse source = .error e ∧ c.checkSource source = .error (.parse e)) ∨
      ∃ t, Java.parse source = .ok t ∧ t.Undamaged ∧
        c.checkSource source = verdictOf (c.checkTree source t) := by
  unfold Checker.checkSource
  cases hparse : Java.parse source with
  | error e => exact .inl ⟨e, rfl, rfl⟩
  | ok t =>
    refine .inr ⟨t, rfl, ((parse_eq_ok_iff hmarks).1 hparse).2, ?_⟩
    unfold Checker.checkParsed
    dsimp only
    cases c.checkTree source t <;> rfl

/-- A source that was read last was read in some step. -/
theorem mem_of_lastRead? {steps : List Step} {source : List Char}
    (h : lastRead? steps = some source) : .parse source ∈ steps := by
  have hmem : source ∈ steps.filterMap Step.readSource? := List.mem_of_getLast? h
  obtain ⟨step, hstep, hread⟩ := List.mem_filterMap.1 hmem
  cases step with
  | parse source' =>
    unfold Step.readSource? at hread
    dsimp only at hread
    split at hread
    · cases hread
      exact hstep
    · cases hread
  | configure origin => cases hread
  | change d => cases hread
  | checkTree => cases hread
  | check source' => cases hread

/-- **A session** keeps only undamaged trees for its checks. -/
theorem undamaged_of_reading {steps : List Step}
    (hmarks : ∀ source, .parse source ∈ steps → MarksExactly source) {r : Reading}
    (hr : (Session.start.run steps).2.reading? = some r) : r.tree.Undamaged := by
  have hdate := Session.upToDate_run steps
  have hread : lastRead? steps = some r.source := by
    rw [← hdate.source, hr]
    rfl
  exact ((parse_eq_ok_iff (hmarks r.source (mem_of_lastRead? hread))).1 (hdate.tree r hr)).2

/-- **The search for damage misses nothing**, and so only undamaged trees are checked. In every tree with
exact marks the search finds the first damaged node of the whole pre-order. A text whose tree has exact
marks is read exactly if a walk from the root meets no damage. The tree that is read has no damage at any
depth, and neither has a tree that a single check or a session hands to the checker. -/
theorem checked_trees_undamaged :
    (∀ t : Tree, t.ExactMarks → t.firstDamage? = t.preorder.find? Tree.isDamage) ∧
      (∀ source, MarksExactly source →
        ((∃ t, Java.parse source = .ok t) ↔
          ∃ t, Java.recoveredTree? source = some t ∧ ∀ c ∈ walk t, c.focus.isDamage = false)) ∧
      (∀ source t, MarksExactly source → Java.parse source = .ok t → t.Undamaged) ∧
      (∀ (c : Checker) source, MarksExactly source →
        (∃ e, Java.parse source = .error e ∧ c.checkSource source = .error (.parse e)) ∨
          ∃ t, Java.parse source = .ok t ∧ t.Undamaged ∧
            c.checkSource source = verdictOf (c.checkTree source t)) ∧
      ∀ steps r, (∀ source, .parse source ∈ steps → MarksExactly source) →
        (Session.start.run steps).2.reading? = some r → r.tree.Undamaged := by
  refine ⟨Tree.firstDamage?_eq_find?, fun source => exists_parse_iff, ?_, ?_, ?_⟩
  · intro source t hmarks hparse
    exact ((parse_eq_ok_iff hmarks).1 hparse).2
  · intro c source hmarks
    exact checkSource_cases c hmarks
  · intro steps r hmarks hr
    exact undamaged_of_reading hmarks hr

/-- A class without its closing brace. -/
def openClass : List Char := "class A\x7b".toList

/-- The tree of the first text has exact marks, and its walk meets the missing token deep in the tree and
after sound nodes. So the text is not read. The tree of the second text is sound throughout, and it is the
one that a session keeps. -/
theorem checked_trees_undamaged_openClass :
    (MarksExactly openClass ∧ (¬ ∃ t, Java.parse openClass = .ok t) ∧
        ∀ t, Java.recoveredTree? openClass = some t →
          t.firstDamage? = t.preorder.find? Tree.isDamage) ∧
      MarksExactly smallClass ∧ ∃ t, Java.parse smallClass = .ok t ∧ t.Undamaged ∧
        (Session.start.run [.parse smallClass, .checkTree]).2.reading? = some ⟨smallClass, t⟩ := by
  obtain ⟨hsearch, hread, -, -, hsession⟩ := checked_trees_undamaged
  have hdamaged : (Java.recoveredTree? openClass).all (fun t =>
      decide t.ExactMarks && (walk t).any (·.focus.isDamage)) = true := by decide +kernel
  simp only [Option.all_eq_true, Bool.and_eq_true, decide_eq_true_eq] at hdamaged
  have hopen : MarksExactly openClass := fun t ht => (hdamaged t ht).1
  have hsmall : MarksExactly smallClass := by decide +kernel
  refine ⟨⟨hopen, ?_, fun t ht => hsearch t (hopen t ht)⟩, hsmall, ?_⟩
  · rw [hread _ hopen]
    rintro ⟨t, ht, hwalk⟩
    obtain ⟨c, hc, hdamage⟩ := List.any_eq_true.1 (hdamaged t ht).2
    rw [hwalk c hc] at hdamage
    cases hdamage
  · obtain ⟨t, ht⟩ : ∃ t, Java.parse smallClass = .ok t := by decide +kernel
    have hkept : (Session.start.run [.parse smallClass, .checkTree]).2.reading? =
        some ⟨smallClass, t⟩ := by
      rw [Session.run_cons, Session.step_parse_of_ok ht]
      rfl
    refine ⟨t, ht, hsession _ _ ?_ hkept, hkept⟩
    intro source hsource
    have heq : source = smallClass := by simpa using hsource
    exact heq ▸ hsmall

end JavaNaming.Naming
