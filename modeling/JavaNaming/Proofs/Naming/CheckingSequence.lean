import JavaNaming.Naming.Checker
import JavaNaming.Proofs.Syntax.Places

/-!
# The checking sequence

A checker walks a tree once for each category and stops at the first name that is refused. Here its
answer is read off one flat list, `checkingSequence`: the names of all categories in the order of the
categories, and within one category in the pre-order of the declaring nodes.

* `checkTree_eq_findSome?`: the walks of a checker search that list (`Rule.checkTree_eq` for one
  rule).
* `checkTree_reports_first_refused`: a tree passes exactly if every name of the sequence has the
  format of its category, and otherwise the violation is built from the first name that has not.
-/

namespace JavaNaming.Naming

open Syntax (Tree Cursor places)

/-! ## The sequence -/

/-- The names of a category in a tree: those that each node of a relevant kind declares, the nodes in
pre-order. -/
def namesOf (source : List Char) (k : Category) (t : Tree) : List Identifier :=
  ((places t).filter fun c => k.kinds.contains c.focus.kind).flatMap (declared source k)

/-- All names that are checked in a tree, in the order in which they are checked. -/
def checkingSequence (source : List Char) (t : Tree) : List Identifier :=
  Category.all.flatMap fun k => namesOf source k t

theorem category_of_mem_declared {source : List Char} {k : Category} {c : Cursor} {i : Identifier}
    (h : i ∈ declared source k c) : i.category = k := by
  simp only [declared, List.mem_filterMap, Option.map_eq_some_iff] at h
  obtain ⟨_, -, _, -, rfl⟩ := h
  rfl

theorem category_of_mem_namesOf {source : List Char} {k : Category} {t : Tree} {i : Identifier}
    (h : i ∈ namesOf source k t) : i.category = k := by
  obtain ⟨c, -, hi⟩ := List.mem_flatMap.1 h
  exact category_of_mem_declared hi

/-! ## One answer for each name -/

namespace Checker

/-- Whether a name has the format of its category. -/
def admits (c : Checker) (i : Identifier) : Bool := (c.pattern i.category).accepts i.name

/-- The violation by a name that has not. -/
def violationBy (c : Checker) (i : Identifier) : Violation where
  category := i.category
  name := i.name
  expected := (c.pattern i.category).description
  range := i.range

/-- The violation by a name, if there is one. -/
def verdict (c : Checker) (i : Identifier) : Option Violation :=
  if c.admits i then none else some (c.violationBy i)

theorem verdict_eq_none_iff {c : Checker} {i : Identifier} :
    c.verdict i = none ↔ c.admits i = true := by
  simp [verdict]

theorem verdict_eq_some_iff {c : Checker} {i : Identifier} {v : Violation} :
    c.verdict i = some v ↔ c.admits i = false ∧ v = c.violationBy i := by
  cases h : c.admits i <;> simp [verdict, h, eq_comm]

end Checker

/-! ## The walks search the sequence -/

theorem findSome?_flatMap {α β γ : Type} (f : α → List β) (g : β → Option γ) :
    ∀ xs : List α, (xs.flatMap f).findSome? g = xs.findSome? fun x => (f x).findSome? g
  | [] => rfl
  | x :: xs => by
    rw [List.flatMap_cons, List.findSome?_append, findSome?_flatMap f g xs, List.findSome?_cons]
    cases (f x).findSome? g <;> rfl

theorem findSome?_congr {α β : Type} {f g : α → Option β} :
    ∀ {xs : List α}, (∀ x ∈ xs, f x = g x) → xs.findSome? f = xs.findSome? g
  | [], _ => rfl
  | x :: xs, h => by
    simp only [List.findSome?_cons, h x List.mem_cons_self,
      findSome?_congr fun y hy => h y (List.mem_cons_of_mem x hy)]

/-- The nodes that a rule does not concern declare nothing for it. -/
theorem flatMap_identifiers (r : Rule) (source : List Char) : ∀ cs : List Cursor,
    cs.flatMap (r.identifiers source) =
      (cs.filter fun c => r.concerns c.focus).flatMap (declared source r.category)
  | [] => rfl
  | c :: cs => by
    simp only [List.flatMap_cons, List.filter_cons, flatMap_identifiers r source cs,
      Rule.identifiers]
    split <;> rfl

/-- **One rule** searches the names of its category. -/
theorem Rule.checkTree_eq (r : Rule) (source : List Char) (t : Tree) :
    r.checkTree source t = (namesOf source r.category t).findSome? r.judge := by
  have h : namesOf source r.category t = (places t).flatMap (r.identifiers source) :=
    (flatMap_identifiers r source (places t)).symm
  rw [h, findSome?_flatMap, Rule.checkTree, Syntax.walk_eq_places]
  rfl

theorem judge_eq_verdict (c : Checker) {i : Identifier} {k : Category} (h : i.category = k) :
    Rule.judge ⟨k, c.pattern k⟩ i = c.verdict i := by
  subst h
  rfl

/-- **All rules together** search the checking sequence. -/
theorem checkTree_eq_findSome? (c : Checker) (source : List Char) (t : Tree) :
    c.checkTree source t = (checkingSequence source t).findSome? c.verdict := by
  rw [checkingSequence, findSome?_flatMap, Checker.checkTree, Checker.rules, List.findSome?_map]
  apply findSome?_congr
  intro k _
  rw [Function.comp_apply, Rule.checkTree_eq]
  exact findSome?_congr fun i hi => judge_eq_verdict c (category_of_mem_namesOf hi)

theorem checkTree_eq_none_iff (c : Checker) (source : List Char) (t : Tree) :
    c.checkTree source t = none ↔ ∀ i ∈ checkingSequence source t, c.admits i = true := by
  simp only [checkTree_eq_findSome?, List.findSome?_eq_none_iff, Checker.verdict_eq_none_iff]

theorem checkTree_eq_some_iff (c : Checker) (source : List Char) (t : Tree) (v : Violation) :
    c.checkTree source t = some v ↔
      ∃ before i after, checkingSequence source t = before ++ i :: after ∧
        (∀ j ∈ before, c.admits j = true) ∧ c.admits i = false ∧ v = c.violationBy i := by
  simp only [checkTree_eq_findSome?, List.findSome?_eq_some_iff, Checker.verdict_eq_none_iff,
    Checker.verdict_eq_some_iff]
  constructor
  · rintro ⟨before, i, after, h, hi, hb⟩
    exact ⟨before, i, after, h, hb, hi⟩
  · rintro ⟨before, i, after, h, hb, hi⟩
    exact ⟨before, i, after, h, hi, hb⟩

/-- **The answer of a checker**: a tree passes exactly if every name of the checking sequence has the
format of its category. Otherwise there is a first name that has not, all names before it have, and
the answer is the violation by that name. -/
theorem checkTree_reports_first_refused (c : Checker) (source : List Char) (t : Tree) :
    (c.checkTree source t = none ↔
        ∀ i ∈ checkingSequence source t, (c.pattern i.category).accepts i.name = true) ∧
      ∀ v, c.checkTree source t = some v ↔
        ∃ before i after, checkingSequence source t = before ++ i :: after ∧
          (∀ j ∈ before, (c.pattern j.category).accepts j.name = true) ∧
          (c.pattern i.category).accepts i.name = false ∧
          v.category = i.category ∧ v.name = i.name ∧ v.range = i.range ∧
          v.expected = (c.pattern i.category).description := by
  refine ⟨checkTree_eq_none_iff c source t, fun v => ?_⟩
  rw [checkTree_eq_some_iff]
  have hv : ∀ i, v = c.violationBy i ↔ v.category = i.category ∧ v.name = i.name ∧
      v.range = i.range ∧ v.expected = (c.pattern i.category).description := by
    intro i
    cases v
    simp only [Checker.violationBy, Violation.mk.injEq]
    tauto
  simp only [hv, Checker.admits]

end JavaNaming.Naming
